import Depot.Action
import Depot.Text.Utf8

namespace Depot

/-- What is kept under a name. -/
inductive Collection where
  | set (members : Table Bytes Unit)
  | list (items : List Bytes)
  | hash (fields : Table Bytes Bytes)
deriving DecidableEq

namespace Collection

/-- What is in a collection: members, items, or the names of fields. -/
def parts : Collection → List Bytes
  | set members => members.keys
  | list items => items
  | hash fields => fields.keys

def isEmpty (c : Collection) : Bool := c.parts.isEmpty

end Collection

namespace ListClient

/-- The collections of a server by their names, of which none is empty. -/
abbrev Data := String → Option Collection

/-- The data with a collection under a name. An empty one is as good as none. -/
def put (key : String) (c : Collection) (data : Data) : Data :=
  fun other => if other = key then if c.isEmpty then none else some c else data other

/-- The set under a name, unless there is a collection of another kind. -/
def setAt (key : String) (data : Data) : Option (Table Bytes Unit) :=
  match data key with
  | none => some .empty
  | some (.set members) => some members
  | some _ => none

def listAt (key : String) (data : Data) : Option (List Bytes) :=
  match data key with
  | none => some []
  | some (.list items) => some items
  | some _ => none

def hashAt (key : String) (data : Data) : Option (Table Bytes Bytes) :=
  match data key with
  | none => some .empty
  | some (.hash fields) => some fields
  | some _ => none

inductive Write where
  | sadd (key : String) (members : List String)
  | srem (key : String) (members : List String)
  | rpush (key : String) (items : List Bytes)
  /-- Removes the first occurrence. -/
  | lrem (key : String) (item : Bytes)
  | hdel (key : String) (fields : List String)
  | delete (keys : List String)

/-- The data after a write. It is refused where there is a collection of another kind. -/
def Write.run (data : Data) : Write → Option Data
  | sadd key members => do
    return put key (.set ((← setAt key data).putAll (members.map fun m => (Utf8.encode m, ())))) data
  | srem key members => do
    return put key (.set ((← setAt key data).eraseAll (members.map Utf8.encode))) data
  | rpush key items => do return put key (.list ((← listAt key data) ++ items)) data
  | lrem key item => do return put key (.list ((← listAt key data).erase item)) data
  | hdel key fields => do return put key (.hash ((← hashAt key data).eraseAll (fields.map Utf8.encode))) data
  | delete keys => some fun key => if key ∈ keys then none else data key

/-- What is asked of a server. -/
inductive Request where
  | write (w : Write)
  /-- Writes that are carried out one after another, with nothing in between. -/
  | transaction (writes : List Write)
  | isMember (key member : String)
  | members (key : String)
  | length (key : String)
  /-- The first items of a list. -/
  | front (key : String) (count : Nat)
  | items (key : String)
  /-- Takes the first items of a list away. -/
  | pop (key : String) (count : Nat)
  /-- Each field has to have a name. -/
  | setFields (key : String) (fields : List (Option String × Bytes))

namespace Request

@[reducible] def Answer : Request → Type
  | write _ | transaction _ | setFields .. => Unit
  | isMember .. => Bool
  | length _ => Nat
  | members _ | front .. | items _ | pop .. => List Bytes

/-- Fields by the bytes of their names, if all of them have one. -/
def encodeFields (fields : List (Option String × Bytes)) : Option (List (Bytes × Bytes)) :=
  fields.mapM fun f => do return (Utf8.encode (← f.1), f.2)

/-- What a request answers and leaves, unless it is refused. -/
def run (data : Data) : (r : Request) → Option (r.Answer × Data)
  | write w => do return ((), ← w.run data)
  | transaction writes => do return ((), ← writes.foldlM Write.run data)
  | isMember key member => do return ((← setAt key data).contains (Utf8.encode member), data)
  | members key => do return ((← setAt key data).keys, data)
  | length key => do return ((← listAt key data).length, data)
  | front key count => do return ((← listAt key data).take count, data)
  | items key => do return (← listAt key data, data)
  | pop key count => do
    let items ← listAt key data
    return (items.take count, put key (.list (items.drop count)) data)
  | setFields key fields => do
    let known ← hashAt key data
    return ((), put key (.hash (known.putAll (← encodeFields fields))) data)

end Request
end ListClient

/-- The client of a server that keeps sets, lists and hashes, in states of type `σ`. -/
class ListClient (σ : Type) where
  /-- Whether there is a client to be had: its package may be missing. -/
  isInstalled : σ → Bool
  openClient (arguments : List (String × Value)) : Action σ Unit
  ping : Action σ Unit
  closeClient : Action σ Unit
  request (r : ListClient.Request) : Action σ r.Answer

namespace ListClient

variable {σ : Type} [ListClient σ]

def write (w : Write) : Action σ Unit := request (.write w)

def transaction (writes : List Write) : Action σ Unit := request (.transaction writes)

def isMember (key member : String) : Action σ Bool := request (.isMember key member)

def members (key : String) : Action σ (List Bytes) := request (.members key)

def length (key : String) : Action σ Nat := request (.length key)

def front (key : String) (count : Nat) : Action σ (List Bytes) := request (.front key count)

def items (key : String) : Action σ (List Bytes) := request (.items key)

def pop (key : String) (count : Nat) : Action σ (List Bytes) := request (.pop key count)

def setFields (key : String) (fields : List (Option String × Bytes)) : Action σ Unit :=
  request (.setFields key fields)

end ListClient
end Depot
