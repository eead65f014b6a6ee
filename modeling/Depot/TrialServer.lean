import Depot.ListClient

namespace Depot

/-- Whether a client can be made: not if its package is missing, nor if it refuses to open. -/
inductive TrialServer.Client where
  | ready
  | missing
  | refusing
deriving DecidableEq, Repr

/-- What has reached the client or the server. -/
inductive TrialServer.Call where
  | opened (arguments : List (String × Value))
  | pinged
  | closed
  | command (name : String)
  | transaction (names : List String)

/-- A server to try messengers on. It tells what has reached it, fails where it is made to, and keeps an empty
collection until the next write. -/
structure TrialServer where
  data : Table String Collection := .empty
  /-- Commands that fail, with what they then say. -/
  failing : Table String String := .empty
  client : TrialServer.Client := .ready
  calls : List TrialServer.Call := []

namespace TrialServer

open ListClient (Write)

abbrev Data := Table String Collection

/-- The word for the kind of a collection. -/
def typeName : Collection → String
  | .set _ => "set"
  | .list _ => "list"
  | .hash _ => "dict"

/-- The collection cannot do what is asked of its kind. -/
def lacks {α : Type} (c : Collection) (member : String) : Attempt α :=
  .error (.raised .member ("'" ++ typeName c ++ "' object has no attribute '" ++ member ++ "'"))

/-- The collection cannot give a part up by its name. -/
def keepsNamed {α : Type} : Collection → Attempt α
  | .set _ => .error (.raised .type "set.pop() takes no arguments (2 given)")
  | _ => .error (.raised .type "pop expected at most 1 argument, got 2")

def partsAt (key : String) (data : Data) : List Bytes := ((data.get? key).map Collection.parts).getD []

/-- The set at a key, for a change by the given means. -/
def membersAt (key means : String) (data : Data) : Attempt (Table Bytes Unit) :=
  match data.get? key with
  | none => .ok .empty
  | some (.set members) => .ok members
  | some other => lacks other means

/-- The list at a key, for a change by the given means. -/
def listAt (key means : String) (data : Data) : Attempt (List Bytes) :=
  match data.get? key with
  | none => .ok []
  | some (.list items) => .ok items
  | some other => lacks other means

/-- The items at a key, of which some are wanted by their places. -/
def itemsAt (key : String) (data : Data) : Attempt (List Bytes) :=
  match data.get? key with
  | none => .ok []
  | some (.list items) => .ok items
  | some other => .error (.raised .type ("'" ++ typeName other ++ "' object is not subscriptable"))

/-- The hash at a key, and what becomes of a change to another kind of collection. -/
def fieldsAt (key : String) (otherwise : Collection → Attempt (Table Bytes Bytes)) (data : Data) :
    Attempt (Table Bytes Bytes) :=
  match data.get? key with
  | none => .ok .empty
  | some (.hash fields) => .ok fields
  | some other => otherwise other

/-- The data without empty collections. -/
def sweep (data : Data) : Data := data.filter fun e => !e.2.isEmpty

def nameOf : Write → String
  | .sadd .. => "sadd"
  | .srem .. => "srem"
  | .rpush .. => "rpush"
  | .lrem .. => "lrem"
  | .hdel .. => "hdel"
  | .delete .. => "delete"

def apply (data : Data) : Write → Attempt Data
  | .sadd key members => do
    let known ← membersAt key "update" data
    return data.put key (.set (known.putAll (members.map fun m => (Utf8.encode m, ()))))
  | .srem key members => do
    let known ← membersAt key "difference_update" data
    return data.put key (.set (known.eraseAll (members.map Utf8.encode)))
  | .rpush key items => do
    let known ← listAt key "extend" data
    return data.put key (.list (known ++ items))
  | .lrem key item => do
    let known ← listAt key "index" data
    return data.put key (.list (known.erase item))
  | .hdel key fields => do
    let known ← fieldsAt key keepsNamed data
    return data.put key (.hash (known.eraseAll (fields.map Utf8.encode)))
  | .delete keys => .ok (data.eraseAll keys)

/-- A write that succeeds takes empty collections away, wherever they are. -/
def run (data : Data) (w : Write) : Attempt Data := do return sweep (← apply data w)

def record (call : Call) : Action TrialServer Unit :=
  .update fun s => { s with calls := s.calls ++ [call] }

/-- Fails if the command is made to fail. -/
def check (name : String) : Action TrialServer Unit := do
  match (← Action.state).failing.get? name with
  | some text => .raise (.raised .connection text)
  | none => return

def command {α : Type} (name : String) (act : Data → Attempt (α × Data)) : Action TrialServer α := do
  record (.command name)
  check name
  let (answer, data) ← .ofAttempt (act (← Action.state).data)
  .update fun s => { s with data }
  return answer

def write (w : Write) : Action TrialServer Unit :=
  command (nameOf w) fun data => do return ((), ← run data w)

def transaction (writes : List Write) : Action TrialServer Unit := do
  record (.transaction (writes.map nameOf))
  check "execute"
  writes.forM fun w => do
    let data ← .ofAttempt (run (← Action.state).data w)
    .update fun s => { s with data }

def read {α : Type} (name : String) (answer : Data → Attempt α) : Action TrialServer α :=
  command name fun data => do return (← answer data, data)

def isMember (key member : String) : Action TrialServer Bool :=
  read "sismember" fun data => .ok ((partsAt key data).contains (Utf8.encode member))

/-- What is in a set, each member once. -/
def members (key : String) : Action TrialServer (List Bytes) :=
  read "smembers" fun data => .ok (partsAt key data).eraseDups

def length (key : String) : Action TrialServer Nat :=
  read "llen" fun data => .ok (partsAt key data).length

/-- The first items of a list. -/
def front (key : String) (count : Nat) : Action TrialServer (List Bytes) :=
  read "lrange" fun data => do return (← itemsAt key data).take count

def items (key : String) : Action TrialServer (List Bytes) :=
  read "lrange" fun data => itemsAt key data

/-- Takes the first items of a list away. A list that is emptied so stays until the next write. -/
def pop (key : String) (count : Nat) : Action TrialServer (List Bytes) :=
  command "lpop" fun data => do
    let known ← itemsAt key data
    return (known.take count, if known.isEmpty then data else data.put key (.list (known.drop count)))

/-- A field has to have a name. -/
def fieldName : Option String → Attempt Bytes
  | some name => .ok (Utf8.encode name)
  | none => .error (.raised .type "unsupported redis value NoneType")

/-- The hash is there before its fields are read, and stays if one of them has no name. -/
def setFields (key : String) (fields : List (Option String × Bytes)) : Action TrialServer Unit := do
  command "hset" fun data => do return ((), data.put key (.hash (← fieldsAt key (lacks · "update") data)))
  let fields ← .ofAttempt (fields.mapM fun f => do return (← fieldName f.1, f.2))
  let known ← .ofAttempt (fieldsAt key (lacks · "update") (← Action.state).data)
  .update fun s => { s with data := sweep (s.data.put key (.hash (known.putAll fields))) }

def openClient (arguments : List (String × Value)) : Action TrialServer Unit := do
  record (.opened arguments)
  if (← Action.state).client = .refusing then .raise (.raised .system "bad socket")

def ping : Action TrialServer Unit := do
  record .pinged
  check "ping"

def closeClient : Action TrialServer Unit := record .closed

instance : ListClient TrialServer where
  isInstalled s := s.client ≠ .missing
  openClient := openClient
  ping := ping
  closeClient := closeClient
  request
    | .write w => write w
    | .transaction writes => transaction writes
    | .isMember key member => isMember key member
    | .members key => members key
    | .length key => length key
    | .front key count => front key count
    | .items key => items key
    | .pop key count => pop key count
    | .setFields key fields => setFields key fields

end TrialServer

end Depot
