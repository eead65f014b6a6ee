import Depot.Decimal.Binary

namespace Depot.Decimal

/-- The decimal `digits * 10 ^ power`. -/
structure Digits where
  digits : Nat
  power : Int
deriving DecidableEq, Repr

/-- A quotient of integers measured against powers of two and of ten: `x * 2 ^ two / 10 ^ ten`, as a
numerator and a denominator. -/
def measure (x : Nat) (two ten : Int) : Nat × Nat :=
  (x * Nat.pow 2 two.toNat * Nat.pow 10 (-ten).toNat, Nat.pow 2 (-two).toNat * Nat.pow 10 ten.toNat)

/-- The reals that round to `x` lie between these bounds, in units of a quarter of its last place;
the lower gap is half as wide at a power of two. -/
def bounds (x : Binary) : Nat × Nat :=
  (if x.significand = Nat.pow 2 52 ∧ minExponent < x.exponent then 4 * x.significand - 1
    else 4 * x.significand - 2, 4 * x.significand + 2)

/-- Whether the decimal `d * 10 ^ power` rounds to `x`; the bounds count iff the significand is even. -/
def readsBack (x : Binary) (power : Int) (d : Nat) : Bool :=
  let (low, high) := bounds x
  let (lowNum, den) := measure low (x.exponent - 2) power
  let (highNum, _) := measure high (x.exponent - 2) power
  if x.significand % 2 = 0 then lowNum ≤ d * den && d * den ≤ highNum
  else lowNum < d * den && d * den < highNum

/-- On the grid of multiples of `10 ^ power`, the neighbour of `x` that reads back, the nearer if both do. -/
def onGrid? (x : Binary) (power : Int) : Option Nat :=
  let (num, den) := measure (4 * x.significand) (x.exponent - 2) power
  let below := num / den
  let twice := 2 * (num % den)
  match readsBack x power below, readsBack x power (below + 1) with
  | true, true =>
    some (if twice < den then below else if den < twice then below + 1
      else if below % 2 = 0 then below else below + 1)
  | true, false => some below
  | false, true => some (below + 1)
  | false, false => none

def decimalLength (n : Nat) : Nat := (Nat.toDigits 10 n).length

/-- The power of ten just below or at a positive double. -/
def magnitude (x : Binary) : Int :=
  let (num, den) := x.toQuotient
  let guess : Int := (decimalLength num : Int) - decimalLength den
  let (n, d) := measure num 0 guess
  if n < d * den then guess - 1 else guess

/-- Seventeen digits always suffice. -/
def shortest (x : Binary) : Digits :=
  let top := magnitude x
  ((List.range 17).findSome? fun (n : Nat) =>
    (onGrid? x (top - n)).map fun d => (⟨d, top - n⟩ : Digits)).getD ⟨0, 0⟩

/-- Trailing zeros move into the power; `fuel` bounds their number. -/
def Digits.trim : Nat → Digits → Digits
  | 0, d => d
  | fuel + 1, d =>
    if d.digits ≠ 0 ∧ d.digits % 10 = 0 then Digits.trim fuel ⟨d.digits / 10, d.power + 1⟩ else d

/-- Positional from a ten-thousandth up to ten to the sixteenth, with at least one decimal place;
else with an exponent of a sign and two digits or more. -/
def Digits.render (d : Digits) : String :=
  let shown := Nat.toDigits 10 d.digits
  let point : Int := shown.length + d.power
  if -4 < point ∧ point ≤ 16 then
    if point ≤ 0 then String.ofList (['0', '.'] ++ List.replicate (-point).toNat '0' ++ shown)
    else if (shown.length : Int) ≤ point then
      String.ofList (shown ++ List.replicate (point - shown.length).toNat '0' ++ ['.', '0'])
    else String.ofList (shown.take point.toNat ++ ['.'] ++ shown.drop point.toNat)
  else
    let exponent := point - 1
    let size := toString exponent.natAbs
    String.ofList (shown.take 1 ++ (if shown.length = 1 then [] else '.' :: shown.drop 1)) ++
      (if exponent < 0 then "e-" else "e+") ++ (if exponent.natAbs < 10 then "0" else "") ++ size

/-- The written form of a non-negative double. -/
def Binary.render (x : Binary) : String :=
  if x.significand = 0 then "0.0" else ((shortest x).trim 400).render

end Depot.Decimal
