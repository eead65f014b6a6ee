import Depot.Messenger.Memory
import Depot.Offload.Sender
import Depot.Offload.Restorer

namespace Depot.Offload

/-- Keys for which an operation fails: all, or some. -/
structure Switch where
  always : Bool := false
  keys : List String := []

def Switch.hits (s : Switch) (keys : List String) : Bool :=
  keys.any fun key => s.always || s.keys.contains key

structure Exchange where
  queues : Messenger.Memory := {}
  store : Store := {}
  writes : Switch := {}
  reads : Switch := {}
  deletes : Switch := {}
  /-- Whether publishing fails. -/
  publishing : Bool := false
  /-- Whether every call of the receiver fails. -/
  receiving : Bool := false
  batches : List (List Message) := []
  errors : List Failure := []

namespace Exchange

/-- Fails at once, or does what it is to do. -/
def failingIf {α : Type} (broken : Exchange → Bool) (failure : Failure) (act : Action Exchange (Outcome α)) :
    Action Exchange (Outcome α) := do
  if broken (← .state) then return .error failure
  act

def cause (text : String) : Option Fault := some (.raised .system text)

def stored : Blobs Exchange :=
  Blobs.memory.zoom Exchange.store fun store s => { s with store }

def blobs : Blobs Exchange where
  write key content := failingIf (fun s => s.writes.hits [key]) (.writeFailed key (cause "disk full"))
    (stored.write key content)
  read key := failingIf (fun s => s.reads.hits [key]) (.readFailed key (cause "connection reset"))
    (stored.read key)
  contains := stored.contains
  delete keys := failingIf (fun s => s.deletes.hits keys)
    (.deleteFailed (.text (keys.headD "")) (cause "denied")) (stored.delete keys)
  list := stored.list
  close := stored.close

def messenger : Messenger Exchange :=
  Messenger.memory.zoom Exchange.queues fun queues s => { s with queues }

def down (operation : String) (channel : Option String) : Failure :=
  .transportFailed operation (some (.raised .connection "broker down")) channel

def publisher (channel : String) : Publisher Exchange :=
  let inner := messenger.publisher channel
  { put := fun m => failingIf Exchange.publishing (down "send" none) (inner.put m)
    putAll := fun ms => failingIf Exchange.publishing (down "send" none) (inner.putAll ms)
    quoted := inner.quoted }

def receiver (channel : String) : Receiver Exchange :=
  let inner := messenger.receiver channel
  let watched {α : Type} (operation : String) (act : Action Exchange (Outcome α)) :=
    failingIf Exchange.receiving (down operation (some channel)) act
  { receive := fun limit => watched "receive_messages" (inner.receive limit)
    confirm := fun ms => watched "confirm_messages" (inner.confirm ms)
    deadLetter := fun m reason description => watched "dead_letter" (inner.deadLetter m reason description)
    count := watched "get_message_count" inner.count
    quoted := inner.quoted }

def keepBatch (messages : List Message) : Action Exchange Unit :=
  .update fun s => { s with batches := s.batches ++ [messages] }

def keepError (e : Failure) : Action Exchange Unit :=
  .update fun s => { s with errors := s.errors ++ [e] }

end Exchange
end Depot.Offload
