import Depot.Connection.Segment

namespace Depot.Connection

structure Parts where
  scheme : String
  pairs : List (String × String)
  native : Option String
deriving DecidableEq, Repr

/-- The text before the first separator of a scheme, and the text after it. -/
def splitScheme? : List Char → Option (List Char × List Char)
  | ':' :: '/' :: '/' :: rest => some ([], rest)
  | c :: rest => (splitScheme? rest).map fun split => (c :: split.1, split.2)
  | [] => none

def nativeKey : String := "native"

def nativeMarker : List Char := ['n', 'a', 't', 'i', 'v', 'e', '=']

/-- A text without a scheme is in a service's own form and is kept whole. -/
def Parts.read (text : String) : Outcome Parts :=
  match splitScheme? text.toList with
  | none => .ok ⟨"", [], some text⟩
  | some ([], _) => .error (.malformedSegment "://" "prefix is empty")
  | some (scheme, body) =>
    match nativeMarker.isPrefixOf? body with
    | some rest =>
      let native := String.ofList rest
      .ok ⟨String.ofList scheme, [(nativeKey, native)], some native⟩
    | none => (readSegments (segments body)).map fun pairs => ⟨String.ofList scheme, pairs, none⟩

def writePair (pair : String × String) : String := pair.1 ++ "=" ++ escape pair.2

/-- A string in a service's own form is written as it is, behind its scheme if it has one. -/
def write (scheme : String) (pairs : List (String × String)) (native : Option String) : String :=
  match native with
  | some whole => if scheme.isEmpty then whole else scheme ++ "://native=" ++ whole
  | none => scheme ++ "://" ++ ";".intercalate (pairs.map writePair)

def Parts.text (parts : Parts) : String := write parts.scheme parts.pairs parts.native

end Depot.Connection
