import Depot.ListClient
import Depot.Log.Entry
import Depot.Message.Envelope
import Depot.Messenger
import Depot.Settings.Server

namespace Depot.Messenger

/-- A messenger over the lists of a server, which it reaches through a client in states of type `σ`. -/
structure Listed (σ : Type) where
  settings : Settings.Server
  isOpen : Bool := false
  ids : Supply := .identifiers
  server : σ
  log : List Log.Entry := []

namespace Listed

variable {σ α : Type}

def Key.registry (namespaceName : String) : String := namespaceName ++ ":channels"

def Key.pending (namespaceName channel : String) : String := namespaceName ++ ":channel:" ++ channel

def Key.inFlight (namespaceName channel : String) : String := namespaceName ++ ":inflight:" ++ channel

def registry (s : Listed σ) : String := Key.registry s.settings.namespaceName

def pendingOf (s : Listed σ) (channel : String) : String := Key.pending s.settings.namespaceName channel

def inFlightOf (s : Listed σ) (channel : String) : String := Key.inFlight s.settings.namespaceName channel

def onServer (act : Action σ α) : Action (Listed σ) α := act.zoom server fun server s => { s with server }

def transport (operation : String) (channel : Option String) (fault : Fault) : Failure :=
  .transportFailed operation (some fault) channel

def connectedEntry (s : Settings.Server) : Log.Entry where
  level := .debug
  source := "messaging.redis"
  message := "Redis messenger connected to " ++ s.host ++ ":" ++ toString s.port ++ "/" ++ toString s.db

variable [ListClient σ]

def openClient (s : Settings.Server) : Action (Listed σ) (Outcome Unit) :=
  Action.reporting (transport "connect" none) do
    onServer (ListClient.openClient (← .ofAttempt s.clientArguments))
    return .ok ()

/-- A client that does not answer is closed, and a fault in that is not reported. -/
def probe : Action (Listed σ) (Outcome Unit) :=
  let asked : Action (Listed σ) (Outcome Unit) := do
    onServer ListClient.ping
    return .ok ()
  asked.recover fun fault => do
    onServer ListClient.closeClient
    return .error (transport "connect" none fault)

def connect : Action (Listed σ) (Outcome Unit) := do
  let s ← .state
  if s.isOpen then return .ok ()
  if !ListClient.isInstalled s.server then return .error (.dependencyUnavailable .messaging "redis")
  (openClient s.settings).onSuccess fun _ => probe.onSuccess fun _ => do
    .update fun s => { s with isOpen := true, log := s.log ++ [connectedEntry s.settings] }
    return .ok ()

/-- A call to the server once there is a client. -/
def connected (operation : String) (channel : Option String)
    (act : Listed σ → Action (Listed σ) (Outcome α)) : Action (Listed σ) (Outcome α) :=
  connect.onSuccess fun _ => do
    Action.reporting (transport operation channel) (act (← .state))

def ifKnown (channel : String) : Action (Listed σ) (Outcome Unit) := do
  let s ← .state
  if ← onServer (ListClient.isMember s.registry channel) then return .ok ()
  return .error (.channelNotFound channel)

def createChannels (names : List String) : Action (Listed σ) (Outcome Unit) :=
  if names.isEmpty then pure (.ok ())
  else connected "create_channels" none fun s => do
    onServer (ListClient.write (.sadd s.registry names))
    return .ok ()

def nameOf (raw : Bytes) : Attempt String := (Utf8.decode raw).mapError (.raised .decoding)

def channels : Action (Listed σ) (Outcome (List String)) :=
  connected "list_channels" none fun s => do
    let members ← onServer (ListClient.members s.registry)
    let names ← .ofAttempt (members.mapM nameOf)
    return .ok (names.mergeSort fun a b => a ≤ b)

def deleteChannels (names : List String) : Action (Listed σ) (Outcome Unit) :=
  if names.isEmpty then pure (.ok ())
  else connected "delete_channels" none fun s => do
    onServer (ListClient.transaction [.delete (names.map s.pendingOf), .delete (names.map s.inFlightOf),
      .srem s.registry names])
    return .ok ()

def count (channel : String) : Action (Listed σ) (Outcome Nat) :=
  connected "get_message_count" (some channel) fun s =>
    (ifKnown channel).onSuccess fun _ => do
      return .ok (← onServer (ListClient.length (s.pendingOf channel)))

section

variable {τ : Type} [Textual τ]

/-- One after another, so that a message which cannot be encoded draws no more identifiers. -/
def encodeAll : List (Message τ) → Action (Listed σ) (List Bytes)
  | [] => pure []
  | m :: rest => do
    let m ← Action.change fun s => let (m, ids) := stamp s.ids m; (m, { s with ids })
    let raw ← .ofAttempt (Envelope.write m)
    return raw :: (← encodeAll rest)

/-- Messages are encoded before the call counts as one to the server. -/
def send (channel : String) (messages : List (Message τ)) : Action (Listed σ) (Outcome Unit) :=
  connect.onSuccess fun _ => do
    let s ← .state
    let payloads ← encodeAll messages
    Action.reporting (transport "send" (some channel)) do
      onServer (ListClient.transaction (.sadd s.registry [channel] ::
        if payloads.isEmpty then [] else [.rpush (s.pendingOf channel) payloads]))
      return .ok ()

end

/-- A message from the list with one more receipt, and the form in which it is in flight. -/
def receipt (raw : Bytes) : Attempt (Message × Bytes) := do
  let m := (← Envelope.read raw).receive
  return (m, ← Envelope.write m)

def receive (channel : String) (limit : Int) : Action (Listed σ) (Outcome (List Message)) :=
  connect.onSuccess fun _ => do
    if limit ≤ 0 then return .ok []
    let s ← .state
    Action.reporting (transport "receive" (some channel)) <|
      (ifKnown channel).onSuccess fun _ => do
        let raws ← onServer (ListClient.pop (s.pendingOf channel) limit.toNat)
        let received ← .ofAttempt (raws.mapM receipt)
        let held : Table (Option String) Bytes := .ofList (received.map fun r => (r.1.id, r.2))
        if !held.isEmpty then onServer (ListClient.setFields (s.inFlightOf channel) held.entries)
        return .ok (received.map Prod.fst)

def peek (channel : String) (limit : Int) : Action (Listed σ) (Outcome (List Message)) :=
  connect.onSuccess fun _ => do
    if limit ≤ 0 then return .ok []
    let s ← .state
    Action.reporting (transport "peek" (some channel)) <|
      (ifKnown channel).onSuccess fun _ => do
        let raws ← onServer (ListClient.front (s.pendingOf channel) limit.toNat)
        return .ok (← .ofAttempt (raws.mapM Envelope.read))

/-- Entries whose message is among those named. -/
def named (ids : List String) (raws : List Bytes) : Attempt (List Bytes) := do
  let read ← raws.mapM fun raw => do return (raw, (← Envelope.read raw).id)
  return (read.filter fun r => (r.2.map ids.contains).getD false).map Prod.fst

def delete (channel : String) (ids : List String) : Action (Listed σ) (Outcome Unit) :=
  if ids.isEmpty then pure (.ok ())
  else connected "delete" (some channel) fun s => do
    onServer (ListClient.write (.hdel (s.inFlightOf channel) ids))
    let doomed ← .ofAttempt (named ids (← onServer (ListClient.items (s.pendingOf channel))))
    if !doomed.isEmpty then
      onServer (ListClient.transaction (doomed.map fun raw => .lrem (s.pendingOf channel) raw))
    return .ok ()

def close : Action (Listed σ) Unit := do
  if (← Action.state).isOpen then
    onServer ListClient.closeClient
    .update fun s => { s with isOpen := false }

end Listed

def listed {σ : Type} [ListClient σ] : Messenger (Listed σ) where
  createChannels := Listed.createChannels
  channels := Listed.channels
  deleteChannels := Listed.deleteChannels
  count := Listed.count
  send := Listed.send
  receive := Listed.receive
  peek := Listed.peek
  delete := Listed.delete
  close := Listed.close

end Depot.Messenger
