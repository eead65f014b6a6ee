namespace Depot.Decimal

/-- A non-negative double. -/
structure Binary where
  significand : Nat
  exponent : Int
deriving DecidableEq, Repr

/-- The integer nearest to a quotient; a tie goes to the even neighbour. -/
def roundQuotient (num den : Nat) : Nat :=
  let floor := num / den
  let rest := num % den
  if 2 * rest < den then floor
  else if den < 2 * rest then floor + 1
  else if floor % 2 = 0 then floor else floor + 1

/-- The quotient `num / den` divided by `2 ^ exponent`, as a quotient. -/
def rescale (num den : Nat) (exponent : Int) : Nat × Nat :=
  if 0 ≤ exponent then (num, den * Nat.pow 2 exponent.toNat) else (num * Nat.pow 2 (-exponent).toNat, den)

/-- Smallest exponent of a double. -/
def minExponent : Int := -1074

/-- The double nearest to `num / den`, `none` if the quotient is beyond the largest double. -/
def nearest? (num den : Nat) : Option Binary :=
  if num = 0 then some ⟨0, minExponent⟩
  else
    let guess : Int := (num.log2 : Int) - den.log2 - 52
    let (n, d) := rescale num den guess
    let exponent := max minExponent (if n / d < Nat.pow 2 52 then guess - 1 else guess)
    let (n, d) := rescale num den exponent
    let significand := roundQuotient n d
    if 971 < exponent ∨ (exponent = 971 ∧ Nat.pow 2 53 ≤ significand) then none
    else some ⟨significand, exponent⟩

/-- The number as a quotient of integers. -/
def Binary.toQuotient (x : Binary) : Nat × Nat :=
  if 0 ≤ x.exponent then (x.significand * Nat.pow 2 x.exponent.toNat, 1)
  else (x.significand, Nat.pow 2 (-x.exponent).toNat)

/-- Rounded quotient of a double by a positive integer. -/
def Binary.divide? (x : Binary) (den : Nat) : Option Binary :=
  nearest? x.toQuotient.1 (x.toQuotient.2 * den)

end Depot.Decimal
