import Depot.Text.Point
import Depot.Text.Quoted
import Depot.Table

namespace Depot

inductive Value where
  | null
  | bool (b : Bool)
  | int (n : Int)
  | text (s : String)
  | list (items : List Value)
  | record (fields : List (String × Value))
  /-- A value of another kind, known by its text and by its quoted form only. -/
  | shown (kind text diagnostic : String)
deriving Inhabited

namespace Value

/-- Null, false, zero and whatever is empty count as absent. -/
def isTruthy : Value → Bool
  | null => false
  | bool b => b
  | int n => n ≠ 0
  | text s => !s.isEmpty
  | list items => !items.isEmpty
  | record fields => !fields.isEmpty
  | shown .. => true

def ofText? : Option String → Value
  | none => null
  | some s => text s

mutual

/-- The quoted form. -/
def quoted : Value → String
  | null => "None"
  | bool b => if b then "True" else "False"
  | int n => toString n
  | text s => Text.quote s
  | list items => "[" ++ ", ".intercalate (quotedItems items) ++ "]"
  | record fields => "\x7b" ++ ", ".intercalate (quotedFields fields) ++ "\x7d"
  | shown _ _ s => s

def quotedItems : List Value → List String
  | [] => []
  | v :: rest => quoted v :: quotedItems rest

def quotedFields : List (String × Value) → List String
  | [] => []
  | (k, v) :: rest => (Text.quote k ++ ": " ++ quoted v) :: quotedFields rest

end

/-- The form inside a sentence: a text stands for itself. -/
def plain : Value → String
  | text s => s
  | shown _ s _ => s
  | v => quoted v

/-- A character beyond the basic plane is written as two halves. -/
def escapedUnits (c : Char) : List Char :=
  if c.toNat < 0x10000 then ['\\', 'u'] ++ Text.hexFixed 4 c.toNat
  else
    let rest := c.toNat - 0x10000
    ['\\', 'u'] ++ Text.hexFixed 4 (0xd800 + rest / 0x400) ++
      ['\\', 'u'] ++ Text.hexFixed 4 (0xdc00 + rest % 0x400)

def lineChar (c : Char) : List Char :=
  if c = '"' then ['\\', '"']
  else if c = '\\' then ['\\', '\\']
  else if c = '\n' then ['\\', 'n']
  else if c = '\r' then ['\\', 'r']
  else if c = '\t' then ['\\', 't']
  else if c.toNat = 0x0c then ['\\', 'f']
  else if c.toNat = 0x08 then ['\\', 'b']
  else if 0x20 ≤ c.toNat && c.toNat < 0x7f then [c]
  else escapedUnits c

def linePoint : Text.Point → List Char
  | .whole c => lineChar c
  | .half code => ['\\', 'u'] ++ Text.hexFixed 4 code

/-- Code points between double marks, in printable ASCII only. -/
def linePoints (ps : List Text.Point) : String :=
  String.ofList ('"' :: ps.flatMap linePoint ++ ['"'])

def lineText (s : String) : String := linePoints (Text.points s)

mutual

/-- The line form. -/
def line : Value → String
  | null => "null"
  | bool b => if b then "true" else "false"
  | int n => toString n
  | text s => lineText s
  | list items => "[" ++ ", ".intercalate (lineItems items) ++ "]"
  | record fields => "\x7b" ++ ", ".intercalate (lineFields fields) ++ "\x7d"
  | shown _ s _ => lineText s

def lineItems : List Value → List String
  | [] => []
  | v :: rest => line v :: lineItems rest

def lineFields : List (String × Value) → List String
  | [] => []
  | (k, v) :: rest => (lineText k ++ ": " ++ line v) :: lineFields rest

end

/-- The word for the kind of a value. -/
def typeName : Value → String
  | null => "NoneType"
  | bool _ => "bool"
  | int _ => "int"
  | text _ => "str"
  | list _ => "list"
  | record _ => "dict"
  | shown kind _ _ => kind

/-- The last field of a name, if the value is a record that has one. -/
def field? (name : String) : Value → Option Value
  | record fields => (fields.reverse.find? fun f => f.1 = name).map Prod.snd
  | _ => none

end Value
end Depot
