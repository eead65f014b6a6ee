import Depot.Blobs
import Depot.Messenger
import Depot.Offload.Header
import Depot.Offload.Scope

namespace Depot.Offload

structure Sender (σ : Type) where
  publisher : Publisher σ
  blobs : Blobs σ
  /-- The longest content that stays inside a message. -/
  limit : Int
  /-- Whether blobs go when their messages could not be published. -/
  cleanUp : Bool

namespace Sender

variable {σ : Type}

def make (publisher : Publisher σ) (blobs : Blobs σ) (limit : Int) (cleanUp : Bool) :
    Attempt (Sender σ) :=
  if limit ≤ 0 then .error (.raised .value ("max_size must be > 0, got " ++ toString limit))
  else .ok ⟨publisher, blobs, limit, cleanUp⟩

/-- What goes out for a message whose content is in a blob. -/
def pointer (m : Message) (key : String) : Message :=
  ({ m with content := [] }.withProperty contentHeader key).withProperty lengthHeader
    (toString m.content.length)

/-- The reserved properties of a message that stays whole mean nothing. -/
def whole (m : Message) : Message := if refersToBlob m then m.withoutProperties reserved else m

/-- What goes out for a message, and the key of the blob written for it. -/
def pack (sender : Sender σ) (m : Message) : Action (Scope σ) (Outcome (Message × Option String)) :=
  let size := m.content.length
  if size ≤ sender.limit then pure (.ok (whole m, none))
  else do
    let key ← Scope.drawKey
    match ← Scope.within (sender.blobs.write key (.bytes m.content)) with
    | .error e =>
      Scope.write .error "Offload write failed" [keyField key, sizeField size, errorField e]
      return .error (.offloadWriteFailed key (some (.reported e)))
    | .ok _ =>
      Scope.write .debug "Offloaded message content" [keyField key, sizeField size]
      return .ok (pointer m key, some key)

/-- Removes blobs whose messages were not published, if that is wanted; a failure is only logged. -/
def discard (sender : Sender σ) (keys : List String) : Action (Scope σ) Unit := do
  if keys.isEmpty then return
  if !sender.cleanUp then
    Scope.write .info "Publish failed, offloaded blobs left in place" [keysField keys]
  else
    match ← Scope.within (sender.blobs.delete keys) with
    | .error e => Scope.write .warning "Cleanup of offloaded blobs failed" [keysField keys, errorField e]
    | .ok _ => Scope.write .debug "Cleaned up offloaded blobs after publish failure" [keysField keys]

/-- Publishes, and discards the blobs if that fails. -/
def publish (sender : Sender σ) (keys : List String) (act : Action σ (Outcome Unit)) :
    Action (Scope σ) (Outcome Unit) := do
  match ← Scope.within act with
  | .ok _ => return .ok ()
  | .error e =>
    sender.discard keys
    return .error e

def put (sender : Sender σ) (m : Message) : Action (Scope σ) (Outcome Unit) :=
  (sender.pack m).onSuccess fun (outgoing, key) => sender.publish key.toList (sender.publisher.put outgoing)

/-- Nothing is published unless every blob could be written; the first failure in the order of the
batch counts. -/
def putAll (sender : Sender σ) (messages : List Message) : Action (Scope σ) (Outcome Unit) := do
  if messages.isEmpty then return .ok ()
  let packed ← Action.gather (messages.map sender.pack)
  let keys := packed.filterMap fun p => p.toOption.bind Prod.snd
  match packed.mapM id with
  | .error e =>
    sender.discard keys
    return .error e
  | .ok outgoing => sender.publish keys (sender.publisher.putAll (outgoing.map Prod.fst))

def quoted (sender : Sender σ) : String :=
  "LargeMessageOffloader(max_size=" ++ toString sender.limit ++ ", publisher=" ++ sender.publisher.quoted ++ ")"

end Sender
end Depot.Offload
