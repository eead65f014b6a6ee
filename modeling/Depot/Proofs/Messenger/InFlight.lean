import Depot.Proofs.Messenger.Postings
import Mathlib.Data.Finset.Card

namespace Depot.Messenger

variable {σ : Type}

namespace Call

/-- A call after which no message with the identifier is in flight in the channel: it deletes the message, or the
channel. -/
def settles (channel : String) (id : Option String) : Call → Bool
  | delete other ids => other = channel && (ids.map some).contains id
  | deleteChannels names => names.contains channel
  | _ => false

end Call

/-- The messages that calls receive from a channel and that no later one of the calls settles, in the order of their
receipt. -/
def outstanding (channel : String) (m : Messenger σ) : List Call → σ → List Message
  | [], _ => []
  | call :: rest, s =>
    ((call.handed channel (call.on m s).1).filter fun message =>
        !rest.any fun later => later.settles channel message.id) ++
      outstanding channel m rest (call.on m s).2

namespace Memory

variable {channel : String} {id : Option String} {s : Memory}

theorem inFlightCount_eq (channel : String) (s : Memory) : s.inFlightCount channel = (s.held channel).size := by
  unfold inFlightCount held
  cases s.inFlight.get? channel <;> rfl

/-- Each identifier is counted once. -/
theorem inFlightCount_eq_card (channel : String) (s : Memory) :
    s.inFlightCount channel = (s.held channel).keys.toFinset.card := by
  have distinct : (s.held channel).keys.Nodup := (s.held channel).distinct
  rw [inFlightCount_eq, List.toFinset_card_of_nodup distinct, Table.keys, List.length_map, Table.size]

theorem held_of_view {later : Memory} {v : View} (view : later.view = v) (channel : String) :
    later.held channel = v.held channel := congrFun (congrArg View.held view) channel

theorem mem_held_receive (other : String) (limit : Int) :
    id ∈ (((Call.receive other limit).on memory s).2.held channel).keys ↔ id ∈ (s.held channel).keys ∨
      id ∈ ((Call.receive other limit).handed channel ((Call.receive other limit).on memory s).1).map Message.id := by
  rcases receive_cases other limit s with ⟨known, found, received⟩ | ⟨e, failed⟩ | ⟨fault, failed⟩
  · have run : (Call.receive other limit).on memory s = (.ok (.ok (.messages
        (((s.queue other).take limit.toNat).map Message.receive))), s.taken other limit.toNat known) :=
      answering_of_ok received
    rw [run]
    simp only [Call.handed]
    by_cases here : other = channel
    · subst here
      have before : s.held other = known := by rw [Memory.held, found, Option.getD_some]
      have after : (s.taken other limit.toNat known).held other = known.putAll
          ((((s.queue other).take limit.toNat).map Message.receive).map fun m => (m.id, m)) := by
        simp only [Memory.held, taken, Table.get?_put, if_true, Option.getD_some]
      rw [if_pos rfl, before, after, Table.mem_keys_putAll, List.map_map, Function.comp_def]
    · have same : (s.taken other limit.toNat known).held channel = s.held channel := by
        simp only [Memory.held, taken, Table.get?_put, if_neg here]
      rw [if_neg here, same, List.map_nil]
      simp only [List.not_mem_nil, or_false]
  · have run : (Call.receive other limit).on memory s = (.ok (.error e), s) := answering_of_ok failed
    rw [run]
    simp only [Call.handed, List.map_nil, List.not_mem_nil, or_false]
  · have run : (Call.receive other limit).on memory s = (.error fault, s) := Action.bind_of_error failed
    rw [run]
    simp only [Call.handed, List.map_nil, List.not_mem_nil, or_false]

theorem mem_held_on (call : Call) :
    id ∈ ((call.on memory s).2.held channel).keys ↔
      (id ∈ (s.held channel).keys ∧ call.settles channel id = false) ∨
        id ∈ (call.handed channel (call.on memory s).1).map Message.id := by
  have still {later : Memory} (same : later.held channel = s.held channel) :
      id ∈ (later.held channel).keys ↔ (id ∈ (s.held channel).keys ∧ false = false) ∨
        id ∈ ([] : List Message).map Message.id := by
    rw [same]
    simp only [and_true, List.map_nil, List.not_mem_nil, or_false]
  cases call with
  | createChannels names => exact still (held_of_view (view_createChannels names s) channel)
  | channels => exact still rfl
  | count other => exact still rfl
  | peek other limit => exact still rfl
  | send other messages => exact still (held_of_view (view_send other messages s) channel)
  | receive other limit =>
    rw [mem_held_receive]
    simp only [Call.settles, and_true]
  | deleteChannels names =>
    have held := held_of_view (view_deleteChannels names s) channel
    change id ∈ ((s.deleteChannels names).held channel).keys ↔ _ ∨ id ∈ ([] : List Message).map Message.id
    simp only [held, View.discard, Call.settles, List.map_nil, List.not_mem_nil, or_false]
    by_cases gone : channel ∈ names
    · simp [gone, Table.keys]
    · simp [gone, Memory.view]
  | delete other ids =>
    have held := held_of_view (view_delete other ids s) channel
    change id ∈ ((s.delete other ids).held channel).keys ↔ _ ∨ id ∈ ([] : List Message).map Message.id
    rw [held]
    simp only [View.remove, View.setQueue, View.setHeld, View.update_eq_ite, Call.settles, List.map_nil,
      List.not_mem_nil, or_false]
    by_cases here : other = channel
    · subst here
      simp [Table.keys_eraseAll, Memory.view]
    · simp [here, Memory.view]

/-- After calls the identifiers in flight are those that were before them and have not been settled, and those of
messages that are outstanding. -/
theorem mem_held_stateAfter (calls : List Call) (s : Memory) :
    id ∈ ((stateAfter memory calls s).held channel).keys ↔
      (id ∈ (s.held channel).keys ∧ ∀ call ∈ calls, call.settles channel id = false) ∨
        id ∈ (outstanding channel memory calls s).map Message.id := by
  induction calls generalizing s with
  | nil => simp [stateAfter, outstanding]
  | cons call rest ih =>
    have first : id ∈ (outstanding channel memory (call :: rest) s).map Message.id ↔
        (id ∈ (call.handed channel (call.on memory s).1).map Message.id ∧
            ∀ later ∈ rest, later.settles channel id = false) ∨
          id ∈ (outstanding channel memory rest (call.on memory s).2).map Message.id := by
      rw [outstanding, List.map_append, List.mem_append]
      refine or_congr_left ?_
      simp only [List.mem_map, List.mem_filter, Bool.not_eq_true', List.any_eq_false, Bool.not_eq_true]
      constructor
      · rintro ⟨message, ⟨handed, unsettled⟩, rfl⟩
        exact ⟨⟨message, handed, rfl⟩, unsettled⟩
      · rintro ⟨⟨message, handed, rfl⟩, unsettled⟩
        exact ⟨message, ⟨handed, unsettled⟩, rfl⟩
    rw [stateAfter, List.foldl_cons, ← stateAfter, ih, mem_held_on, first, List.forall_mem_cons]
    tauto

theorem held_stateAfter (ids : Supply) (calls : List Call) :
    ((stateAfter memory calls { ids }).held channel).keys.toFinset =
      ((outstanding channel memory calls { ids }).map Message.id).toFinset := by
  ext id
  rw [List.mem_toFinset, List.mem_toFinset, mem_held_stateAfter]
  exact or_iff_right fun before => nomatch before.1

theorem held_receive (limit : Int) :
    (((Call.receive channel limit).on memory s).2.held channel).keys.toFinset =
      (((Call.receive channel limit).handed channel ((Call.receive channel limit).on memory s).1).map
        Message.id).toFinset ∪ (s.held channel).keys.toFinset := by
  ext id
  rw [Finset.mem_union, List.mem_toFinset, List.mem_toFinset, List.mem_toFinset, mem_held_receive, or_comm]

end Memory

theorem card_toFinset_eq_length_iff {α : Type} [DecidableEq α] {l : List α} :
    l.toFinset.card = l.length ↔ l.Nodup :=
  Multiset.toFinset_card_eq_card_iff_nodup (m := .ofList l)

theorem card_sdiff_eq_length_iff {α : Type} [DecidableEq α] {l known : List α} :
    (l.toFinset \ known.toFinset).card = l.length ↔ l.Nodup ∧ ∀ a ∈ l, a ∉ known := by
  have disjoint : Disjoint l.toFinset known.toFinset ↔ ∀ a ∈ l, a ∉ known := by
    simp only [Finset.disjoint_left, List.mem_toFinset]
  have smaller : (l.toFinset \ known.toFinset).card ≤ l.toFinset.card := Finset.card_le_card Finset.sdiff_subset
  constructor
  · intro same
    have all : l.toFinset.card = l.length := le_antisymm l.toFinset_card_le (same ▸ smaller)
    refine ⟨card_toFinset_eq_length_iff.mp all, disjoint.mp (Finset.sdiff_eq_self_iff_disjoint.mp ?_)⟩
    exact Finset.eq_of_subset_of_card_le Finset.sdiff_subset (by rw [same, all])
  · rintro ⟨distinct, apart⟩
    rw [Finset.sdiff_eq_self_of_disjoint (disjoint.mpr apart), List.toFinset_card_of_nodup distinct]

/-- After any calls, what a messenger in memory counts as in flight are the different identifiers of the messages
that are outstanding: as many as these messages just when no two of them have one identifier. Receiving adds the
identifiers that none of them has: as many as are received just when these are different and new. -/
theorem in_flight_counts_identifiers (channel : String) (ids : Supply) (calls : List Call) (limit : Int) :
    let s := stateAfter memory calls { ids }
    let known := (outstanding channel memory calls { ids }).map Message.id
    let receipt := (Call.receive channel limit).on memory s
    let received := ((Call.receive channel limit).handed channel receipt.1).map Message.id
    s.inFlightCount channel = known.toFinset.card ∧
      (s.inFlightCount channel = known.length ↔ known.Nodup) ∧
      receipt.2.inFlightCount channel = s.inFlightCount channel + (received.toFinset \ known.toFinset).card ∧
      (receipt.2.inFlightCount channel = s.inFlightCount channel + received.length ↔
        received.Nodup ∧ ∀ id ∈ received, id ∉ known) := by
  intro s known receipt received
  have before : s.inFlightCount channel = known.toFinset.card := by
    rw [Memory.inFlightCount_eq_card, Memory.held_stateAfter]
  have after : receipt.2.inFlightCount channel =
      s.inFlightCount channel + (received.toFinset \ known.toFinset).card := by
    rw [Memory.inFlightCount_eq_card, Memory.held_receive, Memory.held_stateAfter, ← Finset.card_sdiff_add_card,
      Nat.add_comm, before]
  refine ⟨before, ?_, after, ?_⟩
  · rw [before, card_toFinset_eq_length_iff]
  · rw [after, Nat.add_left_cancel_iff, card_sdiff_eq_length_iff]

def twins : List Call :=
  [.send "jobs" [{ content := [97], id := some "m1" }, { content := [98], id := some "m1" }], .receive "jobs" 2]

/-- Both are handed over and neither is settled, and one is counted. -/
theorem in_flight_not_messages :
    (outstanding "jobs" memory twins {}).length = 2 ∧
      returned "jobs" memory twins {} = outstanding "jobs" memory twins {} ∧
      (stateAfter memory (twins.take 1) {}).inFlightCount "jobs" = 0 ∧
      (stateAfter memory twins {}).inFlightCount "jobs" = 1 := by
  decide

end Depot.Messenger
