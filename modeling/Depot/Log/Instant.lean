import Depot.Decimal.Binary
import Depot.Fault

namespace Depot.Log

structure Instant where
  isBeforeEpoch : Bool
  /-- Seconds between the epoch and the instant. -/
  distance : Decimal.Binary
  millis : Nat
deriving DecidableEq, Repr

namespace Instant

def ofMicros (micros : Int) : Attempt Instant :=
  match (Decimal.nearest? micros.natAbs 1).bind fun x => x.divide? 1000000 with
  | some distance => .ok ⟨micros < 0, distance, (micros.fmod 1000000).toNat / 1000⟩
  | none => .error (.raised .overflow "int too large to convert to float")

/-- A count of whole seconds, read from a double, as a signed machine word of 64 bits keeps it. A double does
not tell the greatest count from the one behind it, and that one turns into the least. -/
def inWord (seconds : Int) : Int :=
  if seconds = 9223372036854775808 then -9223372036854775808 else seconds

/-- The last whole second. -/
def second (i : Instant) : Int :=
  let (num, den) := i.distance.toQuotient
  inWord ((if i.isBeforeEpoch then -(num : Int) else num).fdiv den)

/-- Microseconds of a fraction of a second, nearest to it in doubles. -/
def microsOf (num den : Nat) : Nat :=
  match Decimal.nearest? (num * 1000000) den with
  | some x => Decimal.roundQuotient x.toQuotient.1 x.toQuotient.2
  | none => 0

/-- A whole second and the microseconds after it. -/
def split (i : Instant) : Int × Nat :=
  let (num, den) := i.distance.toQuotient
  let micros := microsOf (num % den) den
  let whole : Int := num / den + micros / 1000000
  let part := micros % 1000000
  if !i.isBeforeEpoch then (inWord whole, part)
  else if part = 0 then (-whole, 0) else (-whole - 1, 1000000 - part)

end Instant
end Depot.Log
