import Depot.Text.Hex

namespace Depot

structure Supply where
  nth : Nat → String
  /-- How many names have been drawn. -/
  drawn : Nat := 0

namespace Supply

/-- The name to be drawn next. -/
def next (s : Supply) : String := s.nth s.drawn

def advance (s : Supply) : Supply := { s with drawn := s.drawn + 1 }

/-- A number as an identifier of 128 bits. -/
def identifier (n : Nat) : String := String.ofList (Text.hexFixed 32 n)

/-- An identifier in its five groups. -/
def groupedIdentifier (n : Nat) : String :=
  let digits := Text.hexFixed 32 n
  "-".intercalate ([(0, 8), (8, 4), (12, 4), (16, 4), (20, 12)].map fun group =>
    String.ofList ((digits.drop group.1).take group.2))

/-- Identifiers counted from one. -/
def identifiers : Supply := ⟨fun n => identifier (n + 1), 0⟩

/-- The text without slashes at either end. -/
def trimSlashes (s : String) : String :=
  String.ofList ((s.toList.dropWhile (· = '/')).reverse.dropWhile (· = '/')).reverse

/-- Blob keys in a folder, one identifier each. -/
def keysIn (folder : String) : Supply :=
  ⟨fun n => trimSlashes folder ++ "/" ++ groupedIdentifier (n + 1), 0⟩

/-- The given names over and over. -/
def cycle (names : List String) : Supply :=
  ⟨fun n => (names[n % names.length]?).getD "", 0⟩

end Supply
end Depot
