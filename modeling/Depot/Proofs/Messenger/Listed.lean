import Depot.Proofs.Messenger.Listed.Keeping
import Depot.Proofs.Messenger.Relay

namespace Depot.Messenger.Listed

open ListClient (Data Lawful Request Write hashAt listAt setAt)

variable {σ : Type} {held : σ → Data} {ready : σ → Prop} {s : Listed σ} {channel : String} {messages : List Message}

/-- A channel of the server in which nothing waits, of a messenger that reaches its server. The channel is
there, or it is made by the first message. -/
structure Clear (held : σ → Data) (ready : σ → Prop) (channel : String) (messages : List Message) (s : Listed σ) :
    Prop where
  start : ready s.server
  reachable : s.Reachable
  registry : (setAt s.registry (held s.server)).isSome
  pending : listAt (s.pendingOf channel) (held s.server) = some []
  inFlight : (hashAt (s.inFlightOf channel) (held s.server)).isSome
  known : messages = [] → s.IsRegistered held channel

/-- A channel of the server in which these messages wait in their binary forms. -/
structure Holds (held : σ → Data) (ready : σ → Prop) (channel : String) (raws : List Bytes) (s : Listed σ) :
    Prop where
  start : ready s.server
  reachable : s.Reachable
  known : s.IsRegistered held channel
  pending : listAt (s.pendingOf channel) (held s.server) = some raws
  inFlight : (hashAt (s.inFlightOf channel) (held s.server)).isSome

/-- The channel is registered, and its list has the entries. -/
theorem Clear.posted (clear : s.Clear held ready channel messages) {raws : List Bytes} (some_given : raws ≠ []) :
    ∃ data, (posting s.settings.namespaceName channel raws).foldlM Write.run (held s.server) = some data ∧
      Utf8.encode channel ∈ ListClient.membersAt s.registry data ∧ listAt (s.pendingOf channel) data = some raws ∧
      (hashAt (s.inFlightOf channel) data).isSome := by
  obtain ⟨members, there⟩ := Option.isSome_iff_exists.mp clear.registry
  let registered := ListClient.put s.registry (.set (members.put (Utf8.encode channel) ())) (held s.server)
  have added : (Write.sadd s.registry [channel]).run (held s.server) = some registered := Write.sadd_run there [channel]
  have vacant : listAt (s.pendingOf channel) registered = some [] :=
    (ListClient.listAt_congr (ListClient.put_of_ne Key.registry_ne_pending.symm _)).trans clear.pending
  refine ⟨ListClient.put (s.pendingOf channel) (.list raws) registered, ?_, ?_, ListClient.listAt_put raws, ?_⟩
  · rw [posting, if_neg (List.isEmpty_iff.not.mpr some_given)]
    refine (congrArg (· >>= _) added).trans ?_
    exact (congrArg (· >>= pure) (Write.rpush_run vacant raws)).trans rfl
  · have same : setAt s.registry (ListClient.put (s.pendingOf channel) (.list raws) registered) =
        some (members.put (Utf8.encode channel) ()) :=
      (ListClient.setAt_congr (ListClient.put_of_ne Key.registry_ne_pending _)).trans (ListClient.setAt_put _)
    rw [ListClient.membersAt_eq same, Table.keys_put]
    split
    · assumption
    · exact List.mem_append_right _ List.mem_cons_self
  · have left : ListClient.put (s.pendingOf channel) (.list raws) registered (s.inFlightOf channel) =
        held s.server (s.inFlightOf channel) :=
      (ListClient.put_of_ne Key.pending_ne_inFlight.symm _).trans
        (ListClient.put_of_ne Key.registry_ne_inFlight.symm _)
    rw [ListClient.hashAt_congr left]
    exact clear.inFlight

variable [ListClient σ] (lawful : Lawful held ready)
include lawful

theorem send_of_clear (clear : s.Clear held ready channel messages) (some_given : messages ≠ [])
    (fits : ∀ m ∈ (stampAll s.ids messages).1, Envelope.Fits m) :
    ∃ later, send channel messages s = (.ok (.ok ()), later) ∧
      later.Holds held ready channel ((stampAll s.ids messages).1.map Envelope.form) := by
  have given : (stampAll s.ids messages).1.map Envelope.form ≠ [] := by
    rw [ne_eq, List.map_eq_nil_iff, ← List.length_eq_zero_iff, length_stampAll, List.length_eq_zero_iff]
    exact some_given
  obtain ⟨data, written, registered, waiting, flight⟩ := clear.posted given
  obtain ⟨later, run, settings, -, reachable, left, start⟩ :=
    send_of_ready lawful clear.start clear.reachable fits written
  rw [← registry_congr settings, ← left] at registered
  rw [← pendingOf_congr settings, ← left] at waiting
  rw [← inFlightOf_congr settings, ← left] at flight
  exact ⟨later, run, start, reachable, registered, waiting, flight⟩

theorem receive_of_holds (holds : s.Holds held ready channel (messages.map Envelope.form))
    (fits : ∀ m ∈ messages, Envelope.Fits m.receive ∧ m.origin = none ∧ m.id.isSome) {limit : Int}
    (enough : messages.length ≤ limit) :
    ∃ later, receive channel limit s = (.ok (.ok (messages.map Message.receive)), later) := by
  by_cases none_wanted : limit ≤ 0
  · have nothing : messages = [] := List.length_eq_zero_iff.mp (by omega)
    subst nothing
    obtain ⟨opened, connected, -⟩ := exists_reached lawful holds.start holds.reachable
    refine ⟨opened, (Action.onSuccess_of_ok connected).trans ?_⟩
    rw [if_pos none_wanted]
    rfl
  have receipts : ∀ m ∈ messages, receipt (Envelope.form m) = .ok (m.receive, Envelope.form m.receive) := by
    intro m member
    have original : { m.receive with origin := none } = m.receive := by rw [← (fits m member).2.1]; rfl
    rw [receipt_form (fits m member).1, original]
  have list : s.waiting held channel = messages.map Envelope.form := ListClient.itemsAt_eq holds.pending
  have all : (s.waiting held channel).take limit.toNat = messages.map Envelope.form := by
    rw [list]
    exact List.take_of_length_le (by rw [List.length_map]; omega)
  have takes : s.Takes held channel limit :=
    ⟨holds.reachable, by omega, holds.known, Option.isSome_of_eq_some holds.pending⟩
  have files : Files (s.inFlightOf channel) ((s.waiting held channel).take limit.toNat) (held s.server) := by
    rw [all]
    refine ⟨fun raw member => ?_, fun _ => holds.inFlight⟩
    obtain ⟨m, inside, rfl⟩ := List.mem_map.mp member
    exact ⟨m.receive, _, receipts m inside, (fits m inside).2.2⟩
  obtain ⟨received, later, run, filed⟩ := filed_of_ready lawful holds.start takes files
  have read := filed.read
  rw [all, List.mapM_map] at read
  cases (Outcome.mapM_of_forall_mem receipts).symm.trans read
  exact ⟨later, by rw [run, List.map_map]; rfl⟩

/-- A server whose calls do not fail relays what is sent on a clear channel. -/
theorem relays (clear : s.Clear held ready channel messages) {limit : Int} (enough : messages.length ≤ limit)
    (fits : ∀ m ∈ (stampAll s.ids messages).1, Envelope.Fits m.receive ∧ m.origin = none) :
    listed.Relays channel s.ids messages limit s := by
  have all : ∀ m ∈ (stampAll s.ids messages).1, Envelope.Fits m.receive ∧ m.origin = none ∧ m.id.isSome :=
    fun m member => ⟨(fits m member).1, (fits m member).2, id_of_mem_stampAll member⟩
  have enough_stamped : (stampAll s.ids messages).1.length ≤ limit := by
    rw [length_stampAll]
    exact enough
  by_cases nothing : messages = []
  · subst nothing
    have holds : s.Holds held ready channel (([] : List Message).map Envelope.form) :=
      ⟨clear.start, clear.reachable, clear.known rfl, clear.pending, clear.inFlight⟩
    obtain ⟨later, run⟩ := receive_of_holds lawful holds all enough_stamped
    exact ⟨s, later, by rw [if_pos rfl], run⟩
  · obtain ⟨sent, posted, holds⟩ :=
      send_of_clear lawful clear nothing fun m member => (fits m member).1.of_receive
    obtain ⟨later, run⟩ := receive_of_holds lawful holds all enough_stamped
    exact ⟨sent, later, by rw [if_neg nothing]; exact posted, run⟩

end Depot.Messenger.Listed
