import Depot.Blobs
import Depot.Messenger
import Depot.Offload.Header
import Depot.Offload.Scope
import Depot.Text.Integer

namespace Depot.Offload

structure Restorer (σ : Type) where
  receiver : Receiver σ
  blobs : Blobs σ
  /-- Whether a blob goes when its message is confirmed or set aside. -/
  deleteOnConfirm : Bool

namespace Restorer

variable {σ : Type}

def idField (m : Message) : String × Value := ("message_id", .ofText? m.id)

/-- Content that could not be fetched. -/
def lost (m : Message) (key : String) (cause : Fault) : Failure :=
  (Failure.offloadReadFailed key (some cause)).withContext [idField m]

/-- Whether a length that a message states differs from the real one. A text that does not consist of
digits states nothing. -/
def contradicts (stated : String) (length : Nat) : Attempt Bool :=
  if Text.isDigits stated then
    match Text.readInteger stated with
    | .ok n => .ok (n ≠ length)
    | .error e => .error (.raised .value e.message)
  else .ok false

def mismatch (stated : String) (length : Nat) : Fault :=
  .raised .value ("expected " ++ stated ++ " bytes, blob holds " ++ toString length)

def restored (m : Message) (key : String) (content : Bytes) : Message :=
  { m with content, properties := m.properties.eraseAll reserved, origin := some key }

def lengthContradicted (m : Message) (content : Bytes) : Attempt (Option Fault) :=
  match m.properties.get? lengthHeader with
  | none => .ok none
  | some stated => do
    return if ← contradicts stated content.length then some (mismatch stated content.length) else none

/-- The message with its content; one without an offloaded content stays as it is. -/
def restore (r : Restorer σ) (m : Message) : Action (Scope σ) (Outcome Message) :=
  match m.properties.get? contentHeader with
  | none => pure (.ok m)
  | some key => do
    match ← Scope.within (r.blobs.read key) with
    | .error e =>
      Scope.write .warning "Offloaded content unavailable" [keyField key, idField m, errorField e]
      return .error (lost m key (.reported e))
    | .ok content =>
      match ← Action.ofAttempt (lengthContradicted m content) with
      | some fault =>
        Scope.write .warning "Offloaded content length mismatch"
          [keyField key, idField m, ("error", .text fault.plain)]
        return .error (lost m key fault)
      | none =>
        Scope.write .debug "Rehydrated message content" [keyField key, sizeField content.length]
        return .ok (restored m key content)

/-- One outcome for each message, in order. -/
def restoreAll (r : Restorer σ) (messages : List Message) :
    Action (Scope σ) (List (Outcome Message)) :=
  Action.gather (messages.map r.restore)

def receive (r : Restorer σ) (limit : Int) : Action (Scope σ) (Outcome (List (Outcome Message))) :=
  (Scope.within (r.receiver.receive limit)).onSuccess fun messages => do
    return .ok (← r.restoreAll messages)

def failures (outcomes : List (Outcome Message)) : List Failure :=
  outcomes.filterMap fun o => match o with
    | .ok _ => none
    | .error e => some e

/-- Gives each failure to the handler or, without one, to the log. -/
def reportAll (handler : Option (Failure → Action σ Unit)) : List Failure → Action (Scope σ) Unit
  | [] => pure ()
  | e :: rest => do
    match handler with
    | some handle => Scope.within (handle e)
    | none => Scope.write .error "Dropping undeliverable message" [errorField e]
    reportAll handler rest

/-- Reports the failures of a batch, and then passes the messages that could be restored on to a
processor, if there are any. -/
def process (r : Restorer σ) (processor : List Message → Action σ Unit)
    (handler : Option (Failure → Action σ Unit)) (messages : List Message) : Action (Scope σ) Unit := do
  let outcomes ← r.restoreAll messages
  reportAll handler (failures outcomes)
  let delivered := outcomes.filterMap Except.toOption
  if !delivered.isEmpty then Scope.within (processor delivered)

/-- Deletes the blobs that messages came from, if that is wanted; a failure is only logged. -/
def release (r : Restorer σ) (messages : List Message) : Action (Scope σ) Unit := do
  let keys := messages.filterMap Message.origin
  if !r.deleteOnConfirm || keys.isEmpty then return
  match ← Scope.within (r.blobs.delete keys) with
  | .error e => Scope.write .warning "Failed to delete offloaded blobs" [keysField keys, errorField e]
  | .ok _ => return

def confirm (r : Restorer σ) (messages : List Message) : Action (Scope σ) (Outcome Unit) :=
  (Scope.within (r.receiver.confirm messages)).onSuccess fun _ => do
    r.release messages
    return .ok ()

def deadLetter (r : Restorer σ) (m : Message) (reason : String) (description : Option String) :
    Action (Scope σ) (Outcome Unit) :=
  (Scope.within (r.receiver.deadLetter m reason description)).onSuccess fun _ => do
    r.release [m]
    return .ok ()

def count (r : Restorer σ) : Action (Scope σ) (Outcome Nat) := Scope.within r.receiver.count

def quoted (r : Restorer σ) : String := "LargeMessageRehydrator(receiver=" ++ r.receiver.quoted ++ ")"

end Restorer
end Depot.Offload
