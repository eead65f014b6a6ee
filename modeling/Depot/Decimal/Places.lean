import Depot.Decimal.Binary

namespace Depot.Decimal

/-- Whether trailing zeros stay after the point, and the point without them. -/
structure Style where
  keepsPoint : Bool
  dropsZeros : Bool := false
deriving DecidableEq, Repr

/-- The digits before and after the point, with the point if there is something after it. -/
def pointed (style : Style) (front back : List Char) : List Char :=
  let back := if style.dropsZeros then (back.reverse.dropWhile (· = '0')).reverse else back
  front ++ (if back.isEmpty && !style.keepsPoint then [] else '.' :: back)

/-- A number with that many places. -/
def withPlaces (style : Style) (places n : Nat) : List Char :=
  pointed style (Nat.toDigits 10 n) (List.replicate places '0')

/-- The first digits of a number, `places` of them after the first one, and the power of ten of the first. -/
def leading (places n : Nat) : Nat × Nat :=
  let power := (Nat.toDigits 10 n).length - 1
  if power ≤ places then (n * Nat.pow 10 (places - power), power)
  else
    let digits := roundQuotient n (Nat.pow 10 (power - places))
    if digits = Nat.pow 10 (places + 1) then (Nat.pow 10 places, power + 1) else (digits, power)

/-- A number with one digit before the point and that many after it. -/
def withExponent (style : Style) (places n : Nat) : List Char :=
  let (digits, power) := leading places n
  let shown := Nat.toDigits 10 digits
  let shown := if n = 0 then List.replicate (places + 1) '0' else shown
  pointed style (shown.take 1) (shown.drop 1) ++ ['e', '+'] ++
    (if power < 10 then ['0'] else []) ++ Nat.toDigits 10 power

/-- A number with that many digits in all, in the shorter of the two forms. Digits past its last one are
zeros, so without them no more are needed. -/
def withDigits (keepsZeros : Bool) (count n : Nat) : List Char :=
  let count := if keepsZeros then max 1 count else min (max 1 count) (Nat.toDigits 10 n).length
  let style : Style := ⟨keepsZeros, !keepsZeros⟩
  let (digits, power) := leading (count - 1) n
  if power < count then
    let shown := if n = 0 then List.replicate count '0' else Nat.toDigits 10 digits
    pointed style (shown.take (power + 1)) (shown.drop (power + 1))
  else withExponent style (count - 1) n

end Depot.Decimal
