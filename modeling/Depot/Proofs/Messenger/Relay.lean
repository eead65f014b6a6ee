import Depot.Proofs.Messenger.Memory

namespace Depot.Messenger

/-- Messages sent on a channel come back when so many are received. Without messages nothing is sent. -/
def Relays {σ : Type} (m : Messenger σ) (channel : String) (ids : Supply) (messages : List Message)
    (limit : Int) (s : σ) : Prop :=
  ∃ sent later, (if messages = [] then sent = s else m.send channel messages s = (.ok (.ok ()), sent)) ∧
    m.receive channel limit sent = (.ok (.ok ((stampAll ids messages).1.map Message.receive)), later)

namespace Memory

/-- A channel in which nothing waits. It is there, or it is made by the first message. -/
structure Clear (channel : String) (messages : List Message) (s : Memory) : Prop where
  nothing_waits : s.queue channel = []
  known : messages = [] → (s.pending.get? channel).isSome ∧ (s.inFlight.get? channel).isSome

theorem receive_of_known {channel : String} {queue : List Message} {flight : Table (Option String) Message}
    {s : Memory} (pending : s.pending.get? channel = some queue)
    (inFlight : s.inFlight.get? channel = some flight) (limit : Int) : ∃ later, Memory.receive channel limit s =
      (.ok (.ok ((queue.take limit.toNat).map Message.receive)), later) := by
  unfold Memory.receive waiting
  rw [pending, inFlight]
  exact ⟨_, rfl⟩

theorem relays {channel : String} {messages : List Message} {s : Memory} (clear : s.Clear channel messages)
    {limit : Int} (enough : messages.length ≤ limit) : memory.Relays channel s.ids messages limit s := by
  have all (l : List Message) (same : l.length = messages.length) : l.take limit.toNat = l :=
    List.take_of_length_le (by omega)
  by_cases nothing : messages = []
  · subst nothing
    obtain ⟨queue, pending⟩ := Option.isSome_iff_exists.mp (clear.known rfl).1
    obtain ⟨flight, inFlight⟩ := Option.isSome_iff_exists.mp (clear.known rfl).2
    have empty : queue = [] := by
      have same := clear.nothing_waits
      rw [Memory.queue, pending] at same
      exact same
    obtain ⟨later, run⟩ := receive_of_known pending inFlight limit
    rw [empty, List.take_nil] at run
    exact ⟨s, later, by rw [if_pos rfl], run⟩
  · have pending : (s.send channel messages).pending.get? channel = some (stampAll s.ids messages).1 := by
      have before := clear.nothing_waits
      rw [Memory.queue] at before
      simp only [send, ensure, Table.get?_alter, Table.get?_ensure, if_true, Option.map_some, before,
        List.nil_append]
    have inFlight : (s.send channel messages).inFlight.get? channel =
        some ((s.inFlight.get? channel).getD .empty) := by
      rw [inFlight_send, Table.get?_ensure, if_pos rfl]
    obtain ⟨later, run⟩ := receive_of_known pending inFlight limit
    rw [all _ (length_stampAll s.ids messages)] at run
    exact ⟨s.send channel messages, later, by rw [if_neg nothing]; rfl, run⟩

end Memory
end Depot.Messenger
