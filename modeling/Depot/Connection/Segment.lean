import Depot.Connection.Escape

namespace Depot.Connection

/-- A stretch of the list and its place in it. -/
structure Segment where
  text : List Char
  start : Nat
deriving DecidableEq, Repr

/-- Puts characters in front of the first segment, which then starts at `start`. -/
def extendFirst (front : List Char) (start : Nat) : List Segment → List Segment
  | [] => [⟨front, start⟩]
  | s :: rest => ⟨front ++ s.text, start⟩ :: rest

def segmentsFrom (position : Nat) : List Char → List Segment
  | [] => [⟨[], position⟩]
  | '\\' :: c :: rest =>
    if isQuotable c then extendFirst ['\\', c] position (segmentsFrom (position + 2) rest)
    else extendFirst ['\\'] position (segmentsFrom (position + 1) (c :: rest))
  | ';' :: rest => ⟨[], position⟩ :: segmentsFrom (position + 1) rest
  | c :: rest => extendFirst [c] position (segmentsFrom (position + 1) rest)

def segments (body : List Char) : List Segment := segmentsFrom 0 body

def isKeyChar (c : Char) : Bool := c.isAlphanum || c = '.' || c = '_' || c = '-'

/-- A key is a word of ASCII letters, digits, dots, underscores and hyphens. -/
def isKey (key : String) : Bool := !key.isEmpty && key.toList.all isKeyChar

/-- The text before the first equals sign, and what follows it if there is one. -/
def splitKey : List Char → List Char × Option (List Char)
  | [] => ([], none)
  | '=' :: rest => ([], some rest)
  | c :: rest =>
    let (key, value) := splitKey rest
    (c :: key, value)

/-- A segment without an equals sign is a key with an empty value. -/
def readSegment (text : List Char) : Outcome (String × String) :=
  let segment := String.ofList text
  let (keyText, raw) := splitKey text
  let key := String.ofList keyText
  if key.isEmpty then .error (.malformedSegment segment "key is empty")
  else if !isKey key then
    .error (.malformedSegment segment "key may only contain letters, digits, '.', '_' and '-'")
  else
    match raw with
    | none => .ok (key, "")
    | some raw =>
      (unescape segment (String.ofList raw) (keyText.length + 1)).map fun value => (key, value)

/-- Empty segments are skipped; the first bad one decides the failure. -/
def readSegments : List Segment → Outcome (List (String × String))
  | [] => .ok []
  | s :: rest =>
    if s.text.isEmpty then readSegments rest
    else
      match readSegment s.text with
      | .error e => .error e
      | .ok pair =>
        match readSegments rest with
        | .error e => .error e
        | .ok pairs => .ok (pair :: pairs)

end Depot.Connection
