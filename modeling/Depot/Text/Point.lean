namespace Depot.Text

inductive Point where
  | whole (c : Char)
  | half (code : Nat)
deriving DecidableEq, Repr

namespace Point

def ofCode (code : Nat) : Point :=
  if 0xd800 ≤ code ∧ code < 0xe000 then half code else whole (Char.ofNat code)

def char? : Point → Option Char
  | whole c => some c
  | half _ => none

def code : Point → Nat
  | whole c => c.toNat
  | half code => code

end Point

/-- The points of a text. -/
def points (s : String) : List Point := s.toList.map .whole

/-- The text that points form, if none of them is a half. -/
def ofPoints? (ps : List Point) : Option String := (ps.mapM Point.char?).map String.ofList

end Depot.Text
