namespace Depot.Text

/-- Whether a code point lies in one of the closed ranges. -/
def inRanges (ranges : List (Nat × Nat)) (code : Nat) : Bool :=
  ranges.any fun range => range.1 ≤ code && code ≤ range.2

/-- One run of a character map: from `first` to `last`, every `step`-th code point moves by `shift`. -/
structure Shift where
  first : Nat
  last : Nat
  step : Nat
  shift : Int

/-- The image of a code point under the first run that holds it, itself if none does. -/
def applyShifts (shifts : List Shift) (code : Nat) : Nat :=
  match shifts.find? fun s => s.first ≤ code && code ≤ s.last && (code - s.first) % s.step == 0 with
  | some s => (code + s.shift).toNat
  | none => code

end Depot.Text
