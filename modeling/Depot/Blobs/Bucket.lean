import Depot.Blobs
import Depot.Log.Entry
import Depot.ObjectService
import Depot.Settings.Bucket

namespace Depot.Blobs

structure Bucket (σ : Type := ObjectService) where
  settings : Settings.Bucket
  isOpen : Bool := false
  /-- There is something to enter, or to leave when it has been entered. -/
  isPrepared : Bool := false
  service : σ
  log : List Log.Entry := []

namespace Bucket

variable {σ α β : Type}

def onService (act : Action σ α) : Action (Bucket σ) α :=
  act.zoom Bucket.service fun service s => { s with service }

def name (s : Bucket σ) : String := s.settings.name

def openedEntry (s : Bucket σ) : Log.Entry where
  level := .debug
  source := "blobs.s3"
  message := "S3 client created for bucket " ++ s.name

variable [ObjectClient σ]

/-- What was to be entered is given up when anything fails. -/
def openClient (settings : Settings.Bucket) : Action (Bucket σ) Unit :=
  Action.recover
    (do
      onService (ObjectClient.openSession settings.sessionArguments)
      onService (ObjectClient.configure settings.connectionArguments)
      .update fun s => { s with isPrepared := true }
      onService (ObjectClient.enter settings.clientArguments))
    fun fault => do
      .update fun s => { s with isPrepared := false }
      .raise fault

def connect : Action (Bucket σ) (Outcome Unit) := do
  let s ← .state
  if s.isOpen then return .ok ()
  if !ObjectClient.isInstalled s.service then
    return .error (.dependencyUnavailable .blobStorage "aioboto3")
  Action.reporting (fun fault => .connectionFailed s.name (some fault)) do
    openClient s.settings
    .update fun s => { s with isOpen := true, log := s.log ++ [s.openedEntry] }
    return .ok ()

/-- A request to the service once there is a client, and what becomes of its trouble. -/
def request (act : Bucket σ → Action σ (Except ObjectService.Trouble α))
    (answer : Except ObjectService.Trouble α → Attempt (Outcome β)) : Action (Bucket σ) (Outcome β) :=
  connect.onSuccess fun _ => do
    .ofAttempt (answer (← onService (ObjectClient.attempt (act (← .state)))))

/-- Codes by which services say that there is no such object. -/
def missingCodes : List String := ["NoSuchKey", "404", "NotFound"]

/-- The answer to a trouble: one where the object is missing, and another for all else. -/
def unlessMissing (t : ObjectService.Trouble) (missing other : Outcome α) :
    Attempt (Outcome α) := do
  return if missingCodes.contains (← t.code) then missing else other

def write (key : String) (content : Content) : Action (Bucket σ) (Outcome Unit) :=
  match content.data with
  | .error fault => connect.onSuccess fun _ => pure (.error (.writeFailed key (some fault)))
  | .ok data => request (fun s => ObjectClient.put s.name key data) fun
    | .ok _ => .ok (.ok ())
    | .error t => .ok (.error (.writeFailed key (some t.fault)))

def read (key : String) : Action (Bucket σ) (Outcome Bytes) :=
  request (fun s => ObjectClient.get s.name key) fun
    | .ok data => .ok (.ok data)
    | .error t => unlessMissing t (.error (.blobNotFound key)) (.error (.readFailed key (some t.fault)))

def contains (key : String) : Action (Bucket σ) (Outcome Bool) :=
  request (fun s => ObjectClient.head s.name key) fun
    | .ok _ => .ok (.ok true)
    | .error t => unlessMissing t (.ok false) (.error (.readFailed key (some t.fault)))

/-- How many keys one request may delete. -/
def batchSize : Nat := 1000

/-- A failure for an error that the service reports for a batch. -/
def reported (first : String) (error : Value) : Attempt Failure := do
  let key := (← error.fieldOf "Key").getD (.text first)
  let code := (← error.fieldOf "Code").getD .null
  let message := (← error.fieldOf "Message").getD .null
  return .deleteFailed key (some (.raised .runtime (code.plain ++ ": " ++ message.plain)))

/-- The first of the errors that the service reports decides. -/
def batchAnswer (batch : List String) :
    Except ObjectService.Trouble Value → Attempt (Outcome Unit)
  | .error t => .ok (.error (.deleteFailed (.text (batch.headD "")) (some t.fault)))
  | .ok errors => do
    if !errors.isTruthy then return .ok ()
    return .error (← reported (batch.headD "") (← errors.item 0))

def deleteBatches : List (List String) → Action (Bucket σ) (Outcome Unit)
  | [] => pure (.ok ())
  | batch :: rest => do
    let answer ← onService (ObjectClient.attempt (ObjectClient.delete (← Action.state).name batch))
    (Action.ofAttempt (batchAnswer batch answer)).onSuccess fun _ => deleteBatches rest

/-- Stops at the first batch that fails. -/
def delete (keys : List String) : Action (Bucket σ) (Outcome Unit) :=
  if keys.isEmpty then pure (.ok ())
  else connect.onSuccess fun _ => deleteBatches (ObjectService.chunks batchSize keys)

/-- An empty text does not narrow a listing. -/
def list (start : Option String) : Action (Bucket σ) (Outcome (List String)) :=
  let start := Settings.given? start
  request (fun s => ObjectClient.list s.name start) fun
    | .ok pages => .ok (.ok (Store.sorted pages.flatten))
    | .error t => .ok (.error (.readFailed (start.getD "") (some t.fault)))

def close : Action (Bucket σ) Unit := do
  if (← Action.state).isPrepared then onService ObjectClient.leave
  .update fun s => { s with isOpen := false, isPrepared := false }

end Bucket

def bucket {σ : Type} [ObjectClient σ] : Blobs (Bucket σ) where
  write := Bucket.write
  read := Bucket.read
  contains := Bucket.contains
  delete := Bucket.delete
  list := Bucket.list
  close := Bucket.close

end Depot.Blobs
