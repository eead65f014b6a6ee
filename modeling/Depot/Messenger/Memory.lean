import Depot.Messenger

namespace Depot.Messenger

structure Memory where
  pending : Table String (List Message) := .empty
  inFlight : Table String (Table (Option String) Message) := .empty
  ids : Supply := .identifiers

namespace Memory

/-- Adds a channel unless it is there. -/
def ensure (channel : String) (s : Memory) : Memory :=
  { s with pending := s.pending.ensure channel [], inFlight := s.inFlight.ensure channel .empty }

def createChannels (names : List String) (s : Memory) : Memory :=
  names.foldl (fun s name => s.ensure name) s

def channels (s : Memory) : List String := s.pending.keys.mergeSort fun a b => a ≤ b

def deleteChannels (names : List String) (s : Memory) : Memory :=
  { s with pending := s.pending.eraseAll names, inFlight := s.inFlight.eraseAll names }

def waiting (channel : String) (s : Memory) : Outcome (List Message) :=
  match s.pending.get? channel with
  | some queue => .ok queue
  | none => .error (.channelNotFound channel)

def count (channel : String) (s : Memory) : Outcome Nat := (s.waiting channel).map List.length

def inFlightCount (channel : String) (s : Memory) : Nat :=
  ((s.inFlight.get? channel).map Table.size).getD 0

def send (channel : String) (messages : List Message) (s : Memory) : Memory :=
  let s := s.ensure channel
  let (messages, ids) := stampAll s.ids messages
  { s with pending := s.pending.alter channel (· ++ messages), ids }

def receive (channel : String) (limit : Int) : Action Memory (Outcome (List Message)) := fun s =>
  match s.waiting channel, s.inFlight.get? channel with
  | .error e, _ => (.ok (.error e), s)
  | .ok _, none => (.error (.raised .key channel), s)
  | .ok queue, some held =>
    let received := (queue.take limit.toNat).map Message.receive
    (.ok (.ok received),
      { s with
        pending := s.pending.put channel (queue.drop limit.toNat)
        inFlight := s.inFlight.put channel (held.putAll (received.map fun m => (m.id, m))) })

def peek (channel : String) (limit : Int) (s : Memory) : Outcome (List Message) :=
  (s.waiting channel).map fun queue => queue.take limit.toNat

/-- Whether a message is among those named. -/
def isNamed (ids : List String) (m : Message) : Bool := (m.id.map ids.contains).getD false

def delete (channel : String) (ids : List String) (s : Memory) : Memory :=
  { s with
    pending := s.pending.alter channel fun queue => queue.filter fun m => !isNamed ids m
    inFlight := s.inFlight.alter channel fun held => held.eraseAll (ids.map some) }

/-- Every channel with the numbers of its waiting messages and of those in flight. -/
def summary (s : Memory) : List (String × Nat × Nat) :=
  s.channels.map fun channel =>
    (channel, ((s.pending.get? channel).map List.length).getD 0, s.inFlightCount channel)

end Memory

def memory : Messenger Memory where
  createChannels names := .change fun s => (.ok (), s.createChannels names)
  channels := .change fun s => (.ok s.channels, s)
  deleteChannels names := .change fun s => (.ok (), s.deleteChannels names)
  count channel := .change fun s => (s.count channel, s)
  send channel messages := .change fun s => (.ok (), s.send channel messages)
  receive := Memory.receive
  peek channel limit := .change fun s => (s.peek channel limit, s)
  delete channel ids := .change fun s => (.ok (), s.delete channel ids)
  close := pure ()

end Depot.Messenger
