import Depot.Text.Ranges

namespace Depot.Text

/-- Blank code points beyond ASCII. -/
def wideBlankRanges : List (Nat × Nat) := [
  (0x85, 0x85), (0xa0, 0xa0), (0x1680, 0x1680), (0x2000, 0x200a), (0x2028, 0x2029), (0x202f, 0x202f),
  (0x205f, 0x205f), (0x3000, 0x3000)]

/-- Tab, line feed, the two vertical moves, carriage return, the blank itself and the wide blanks. -/
def isBlank (c : Char) : Bool :=
  if c.toNat < 0x80 then c.toNat = 0x20 || (0x09 ≤ c.toNat && c.toNat ≤ 0x0d)
  else inRanges wideBlankRanges c.toNat

end Depot.Text
