import Depot.Action
import Depot.Store
import Depot.Value.Access

namespace Depot

namespace ObjectService

/-- Whether a client can be had: its package may be missing, the session or the entry may fail. -/
inductive Client where
  | ready
  | missing
  | sessionFails
  | entryFails
deriving DecidableEq, Repr

/-- A failed request, with the response to it if there is one. -/
structure Trouble where
  fault : Fault
  response : Option Value := none
deriving Inhabited

/-- What has reached the client or the service. -/
inductive Call where
  | session (arguments : List (String × Value))
  | configured (arguments : List (String × Value))
  | client (arguments : List (String × Value))
  | entered
  | left
  | request (name : String) (arguments : List (String × Value))
  | paginator (name : String)
  | deletion (bucket : String) (keys : List String)

end ObjectService

/-- The client of an object service, in states of type `σ`. A request that the service refuses ends in a
trouble. -/
class ObjectClient (σ : Type) where
  /-- Whether there is a client to be had: its package may be missing. -/
  isInstalled : σ → Bool
  openSession (arguments : List (String × Value)) : Action σ Unit
  configure (arguments : List (String × Value)) : Action σ Unit
  enter (arguments : List (String × Value)) : Action σ Unit
  leave : Action σ Unit
  put (bucket key : String) (data : Bytes) : Action σ (Except ObjectService.Trouble Unit)
  get (bucket key : String) : Action σ (Except ObjectService.Trouble Bytes)
  head (bucket key : String) : Action σ (Except ObjectService.Trouble Unit)
  /-- Answers with the errors that the service reports. -/
  delete (bucket : String) (keys : List String) : Action σ (Except ObjectService.Trouble Value)
  /-- Answers with the keys of each page. -/
  list (bucket : String) (start : Option String) :
    Action σ (Except ObjectService.Trouble (List (List String)))

/-- Whatever else interrupts a request is a trouble without a response. -/
def ObjectClient.attempt {σ α : Type} (act : Action σ (Except ObjectService.Trouble α)) :
    Action σ (Except ObjectService.Trouble α) :=
  act.recover fun fault => pure (.error ⟨fault, none⟩)

structure ObjectService where
  objects : Store := {}
  failing : Table String ObjectService.Trouble := .empty
  /-- What deletions report as failed; they delete nonetheless. -/
  deleteErrors : Value := .list []
  /-- How many keys a page of a listing holds at most. -/
  pageSize : Int := 2
  client : ObjectService.Client := .ready
  calls : List ObjectService.Call := []

namespace ObjectService

/-- The code that a response names; without a response it is empty. -/
def Trouble.code (t : Trouble) : Attempt String := do
  let response := t.response.getD .null
  let error ← (if response.isTruthy then response else .record []).fieldOf "Error"
  let code ← (error.getD (.record [])).fieldOf "Code"
  return (code.getD (.text "")).plain

/-- A trouble that names its code in text and response. -/
def Trouble.ofCode (code : Value) : Trouble :=
  ⟨.raised .client code.plain, some (.record [("Error", .record [("Code", code)])])⟩

def record (call : Call) : Action ObjectService Unit :=
  .update fun s => { s with calls := s.calls ++ [call] }

/-- The answer, unless the request is made to fail. -/
def unlessFailing {α : Type} (name : String) (answer : Action ObjectService (Except Trouble α)) :
    Action ObjectService (Except Trouble α) := do
  match (← Action.state).failing.get? name with
  | some trouble => return .error trouble
  | none => answer

def openSession (arguments : List (String × Value)) : Action ObjectService Unit := do
  record (.session arguments)
  if (← Action.state).client = .sessionFails then .raise (.raised .runtime "profile not found")

def configure (arguments : List (String × Value)) : Action ObjectService Unit :=
  record (.configured arguments)

def enter (arguments : List (String × Value)) : Action ObjectService Unit := do
  record (.client arguments)
  record .entered
  if (← Action.state).client = .entryFails then .raise (.raised .system "no route to host")

def leave : Action ObjectService Unit := record .left

/-- Arguments that name an object. -/
def place (bucket key : String) : List (String × Value) :=
  [("Bucket", .text bucket), ("Key", .text key)]

/-- Data are known by their digits. -/
def bytesValue (data : Bytes) : Value :=
  let digits := String.ofList (data.flatMap Text.hexByte)
  .shown "bytes" digits digits

def put (bucket key : String) (data : Bytes) : Action ObjectService (Except Trouble Unit) := do
  record (.request "put_object" (place bucket key ++
    [("Body", bytesValue data),
      ("ContentType", .text "application/octet-stream")]))
  unlessFailing "put_object" do
    .update fun s => { s with objects := s.objects.write key data }
    return .ok ()

/-- The request and the stream of its answer can fail apart. -/
def get (bucket key : String) : Action ObjectService (Except Trouble Bytes) := do
  record (.request "get_object" (place bucket key))
  unlessFailing "get_object" do
    match (← Action.state).objects.read? key with
    | none => return .error (.ofCode (.text "NoSuchKey"))
    | some data => unlessFailing "stream" (return .ok data)

def head (bucket key : String) : Action ObjectService (Except Trouble Unit) := do
  record (.request "head_object" (place bucket key))
  unlessFailing "head_object" do
    if (← Action.state).objects.contains key then return .ok ()
    return .error (.ofCode (.text "404"))

def delete (bucket : String) (keys : List String) : Action ObjectService (Except Trouble Value) := do
  record (.deletion bucket keys)
  unlessFailing "delete_objects" do
    .update fun s => { s with objects := s.objects.delete keys }
    return .ok (← Action.state).deleteErrors

/-- Cuts a list into pieces of the given size, the last of which may be shorter. -/
def chunks {α : Type} (size : Nat) (items : List α) : List (List α) :=
  if items.isEmpty ∨ size = 0 then []
  else items.take size :: chunks size (items.drop size)
termination_by items.length
decreasing_by
  rename_i h
  have : items ≠ [] := fun e => h (Or.inl (by simp [e]))
  have := List.length_pos_iff.mpr this
  simp only [List.length_drop]
  omega

/-- The pages of a listing. Keys cannot be laid out in steps of zero, and steps back reach none. -/
def pages (s : ObjectService) (start : String) : Except Trouble (List (List String)) :=
  let keys := s.objects.keysUnder start
  if s.pageSize = 0 then .error ⟨.raised .value "range() arg 3 must not be zero", none⟩
  else .ok (chunks s.pageSize.toNat keys)

def list (bucket : String) (start : Option String) :
    Action ObjectService (Except Trouble (List (List String))) := do
  record (.paginator "list_objects_v2")
  unlessFailing "get_paginator" do
    record (.request "paginate" (("Bucket", .text bucket) ::
      match start with
      | none => []
      | some text => [("Prefix", .text text)]))
    unlessFailing "paginate" (return (← Action.state).pages (start.getD ""))

instance : ObjectClient ObjectService where
  isInstalled s := s.client ≠ .missing
  openSession := openSession
  configure := configure
  enter := enter
  leave := leave
  put := put
  get := get
  head := head
  delete := delete
  list := list

end ObjectService
end Depot
