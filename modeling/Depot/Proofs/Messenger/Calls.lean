import Depot.Proofs.Action
import Depot.Proofs.Messenger.View

namespace Depot.Messenger

inductive Call where
  | createChannels (names : List String)
  | channels
  | deleteChannels (names : List String)
  | count (channel : String)
  | send (channel : String) (messages : List Message)
  | receive (channel : String) (limit : Int)
  | peek (channel : String) (limit : Int)
  | delete (channel : String) (ids : List String)

/-- What a call answers. -/
inductive Reply where
  | done
  | channels (names : List String)
  | count (n : Nat)
  | messages (messages : List Message)

variable {σ : Type}

def answering {α : Type} (reply : α → Reply) (act : Action σ (Outcome α)) : Action σ (Outcome Reply) := do
  return (← act).map reply

namespace Call

def on (m : Messenger σ) : Call → Action σ (Outcome Reply)
  | createChannels names => answering (fun _ => .done) (m.createChannels names)
  | channels => answering .channels m.channels
  | deleteChannels names => answering (fun _ => .done) (m.deleteChannels names)
  | count channel => answering .count (m.count channel)
  | send channel messages => answering (fun _ => .done) (m.send channel messages)
  | receive channel limit => answering .messages (m.receive channel limit)
  | peek channel limit => answering .messages (m.peek channel limit)
  | delete channel ids => answering (fun _ => .done) (m.delete channel ids)

/-- Messages are asked for, and those that are sent have a binary form, with room for one more receipt. -/
def Within : Call → Prop
  | send _ messages => ∀ m ∈ messages, Envelope.Fits m.receive
  | receive _ limit => 1 ≤ limit
  | peek _ limit => 1 ≤ limit
  | _ => True

instance : DecidablePred Within
  | send _ messages => inferInstanceAs (Decidable (∀ m ∈ messages, Envelope.Fits m.receive))
  | receive _ limit => inferInstanceAs (Decidable (1 ≤ limit))
  | peek _ limit => inferInstanceAs (Decidable (1 ≤ limit))
  | createChannels _ | channels | deleteChannels _ | count _ | delete _ _ => inferInstanceAs (Decidable True)

end Call

/-- The answers to calls made one after another, each with the state after the call. -/
def run (m : Messenger σ) : List Call → σ → List (Attempt (Outcome Reply) × σ)
  | [], _ => []
  | call :: rest, s => call.on m s :: run m rest (call.on m s).2

inductive Reply.Agrees : Reply → Reply → Prop
  | done : Agrees .done .done
  | channels (names : List String) : Agrees (.channels names) (.channels names)
  | count (n : Nat) : Agrees (.count n) (.count n)
  | messages {left right : List Message} (each : List.Forall₂ (fun a b => a.agrees b) left right) :
      Agrees (.messages left) (.messages right)

/-- Both calls succeed with replies that agree, or both fail alike. -/
inductive SameAnswer : Attempt (Outcome Reply) → Attempt (Outcome Reply) → Prop
  | success {left right : Reply} (agrees : left.Agrees right) : SameAnswer (.ok (.ok left)) (.ok (.ok right))
  | failure (e : Failure) : SameAnswer (.ok (.error e)) (.ok (.error e))

theorem answering_of_ok {α : Type} {reply : α → Reply} {act : Action σ (Outcome α)} {t later : σ}
    {result : Outcome α} (run : act t = (.ok result, later)) :
    answering reply act t = (.ok (result.map reply), later) :=
  Action.bind_of_ok run

theorem sameAnswer_ofKnown {α : Type} {v : View} {channel : String} {a b : α} {reply : α → Reply}
    (agrees : (reply a).Agrees (reply b)) :
    SameAnswer (.ok ((v.ofKnown channel a).map reply)) (.ok ((v.ofKnown channel b).map reply)) := by
  unfold View.ofKnown
  split
  · exact .success agrees
  · exact .failure _

theorem agrees_without_origin (m : Message) : m.agrees { m with origin := none } := by
  simp [Message.agrees, Table.agrees_self]

theorem forall₂_map_right {α β : Type} {R : α → β → Prop} {f : α → β} (l : List α)
    (each : ∀ a ∈ l, R a (f a)) : List.Forall₂ R l (l.map f) := by
  rw [List.forall₂_map_right_iff, List.forall₂_same]
  exact each

namespace Memory

theorem mem_channels {channel : String} {m : Memory} : channel ∈ m.channels ↔ channel ∈ m.view.names :=
  List.mem_mergeSort

theorem waiting_eq (channel : String) (m : Memory) :
    m.waiting channel = m.view.ofKnown channel (m.queue channel) := by
  unfold waiting View.ofKnown queue
  cases found : m.pending.get? channel with
  | none => rw [if_neg (show channel ∉ m.view.names from Table.get?_eq_none_iff.mp found)]
  | some messages =>
    rw [if_pos (show channel ∈ m.view.names from Table.mem_keys.mpr ⟨_, Table.get?_eq_some_iff.mp found⟩)]
    rfl

theorem count_eq (channel : String) (m : Memory) :
    m.count channel = m.view.ofKnown channel (m.queue channel).length := by
  rw [count, waiting_eq, View.map_ofKnown]

theorem peek_eq (channel : String) (limit : Int) (m : Memory) :
    m.peek channel limit = m.view.ofKnown channel ((m.queue channel).take limit.toNat) := by
  rw [peek, waiting_eq, View.map_ofKnown]

theorem receive_unknown {channel : String} {m : Memory} (unknown : channel ∉ m.view.names) (limit : Int) :
    Memory.receive channel limit m = (.ok (.error (.channelNotFound channel)), m) := by
  unfold Memory.receive
  rw [waiting_eq, View.ofKnown, if_neg unknown]

theorem receive_known {channel : String} {m : Memory} (paired : m.Paired) (known : channel ∈ m.view.names)
    (limit : Int) : ∃ held, m.inFlight.get? channel = some held ∧ Memory.receive channel limit m =
      (.ok (.ok (m.view.received channel limit.toNat)), m.taken channel limit.toNat held) := by
  cases found : m.inFlight.get? channel with
  | none =>
    have absent : channel ∉ m.pending.keys := paired ▸ Table.get?_eq_none_iff.mp found
    exact absurd known absent
  | some held =>
    refine ⟨held, rfl, ?_⟩
    unfold Memory.receive
    rw [waiting_eq, View.ofKnown, if_pos known, found]
    rfl

end Memory

end Depot.Messenger
