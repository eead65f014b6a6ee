import Depot.Messenger.Memory
import Depot.Proofs.Messenger.Stamp
import Depot.Proofs.Table
import Mathlib.Data.List.Perm.Basic

namespace Depot.Messenger.Memory

def queue (channel : String) (s : Memory) : List Message := (s.pending.get? channel).getD []

def flight (channel : String) (s : Memory) : List Message :=
  ((s.inFlight.get? channel).map Table.values).getD []

/-- The messages of a channel, waiting or in flight. -/
def holding (channel : String) (s : Memory) : List Message := s.queue channel ++ s.flight channel

/-- Each message in flight stands under its own identifier. -/
def Filed (s : Memory) : Prop :=
  ∀ channel held, s.inFlight.get? channel = some held → ∀ e ∈ held.entries, e.1 = e.2.id

theorem queue_send (channel other : String) (messages : List Message) (s : Memory) :
    (s.send channel messages).queue other =
      if channel = other then s.queue other ++ (stampAll s.ids messages).1 else s.queue other := by
  simp only [queue, send, ensure, Table.get?_alter, Table.get?_ensure]
  split
  · rename_i same
    simp only [same, if_true, Option.map_some, Option.getD_some]
  · rfl

theorem ids_grow_send (channel : String) (messages : List Message) (s : Memory) :
    s.ids.Grows (s.send channel messages).ids :=
  stampAll_grows s.ids messages

theorem inFlight_send (channel : String) (messages : List Message) (s : Memory) :
    (s.send channel messages).inFlight = s.inFlight.ensure channel .empty := rfl

theorem flight_send (channel other : String) (messages : List Message) (s : Memory) :
    (s.send channel messages).flight other = s.flight other := by
  simp only [flight, inFlight_send, Table.get?_ensure]
  split
  · rename_i same
    rw [← same]
    cases s.inFlight.get? channel <;> rfl
  · rfl

/-- Messages that are sent one part after another are sent as at once. -/
theorem send_append (channel : String) (left right : List Message) (s : Memory) :
    s.send channel (left ++ right) = (s.send channel left).send channel right := by
  have waiting : (s.send channel left).pending.ensure channel [] = (s.send channel left).pending := by
    refine Table.ensure_of_mem ?_ _
    simp only [send, ensure, Table.keys_alter]
    exact Table.mem_keys_ensure ..
  have flying : (s.send channel left).inFlight.ensure channel .empty = (s.send channel left).inFlight := by
    rw [inFlight_send]
    exact Table.ensure_of_mem (Table.mem_keys_ensure ..) _
  conv_rhs => rw [send, ensure, waiting, flying]
  simp only [send, ensure, stampAll_append, Table.alter_alter, List.append_assoc]

theorem holding_send (channel : String) (messages : List Message) (s : Memory) :
    ((s.send channel messages).holding channel).Perm (s.holding channel ++ (stampAll s.ids messages).1) := by
  rw [holding, queue_send, if_pos rfl, flight_send, holding, List.append_assoc, List.append_assoc]
  exact List.perm_append_comm.append_left _

theorem holding_send_of_ne {channel other : String} (different : channel ≠ other) (messages : List Message)
    (s : Memory) : (s.send channel messages).holding other = s.holding other := by
  rw [holding, queue_send, if_neg different, flight_send, holding]

theorem filed_send {s : Memory} (filed : s.Filed) (channel : String) (messages : List Message) :
    (s.send channel messages).Filed := by
  intro other held found
  rw [inFlight_send, Table.get?_ensure] at found
  split at found
  · cases there : s.inFlight.get? channel with
    | none =>
      rw [there, Option.getD_none] at found
      cases found
      simp
    | some before =>
      rw [there, Option.getD_some] at found
      cases found
      exact filed channel held there
  · exact filed other held found

/-- The messages that a deletion leaves. -/
def unnamed (ids : List String) (messages : List Message) : List Message :=
  messages.filter fun m => !isNamed ids m

theorem isNamed_iff {ids : List String} {m : Message} : isNamed ids m ↔ ∃ id, m.id = some id ∧ id ∈ ids := by
  unfold isNamed
  cases m.id with
  | none => simp
  | some id => simp

theorem queue_delete (channel other : String) (ids : List String) (s : Memory) :
    (s.delete channel ids).queue other =
      if channel = other then unnamed ids (s.queue other) else s.queue other := by
  simp only [queue, delete, Table.get?_alter]
  split
  · rename_i same
    rw [← same]
    cases s.pending.get? channel <;> rfl
  · rfl

theorem values_eraseAll_of_filed {held : Table (Option String) Message}
    (filed : ∀ e ∈ held.entries, e.1 = e.2.id) (ids : List String) :
    (held.eraseAll (ids.map some)).values = unnamed ids held.values := by
  have kept : ∀ e ∈ held.entries, (!isNamed ids e.2) ↔ e.1 ∉ ids.map some := by
    intro e member
    rw [Bool.not_eq_true', ← Bool.not_eq_true, isNamed_iff, filed e member]
    cases e.2.id <;> simp
  rw [Table.values, Table.entries_eraseAll kept, unnamed, Table.values, List.filter_map]
  rfl

theorem flight_delete {s : Memory} (filed : s.Filed) (channel other : String) (ids : List String) :
    (s.delete channel ids).flight other =
      if channel = other then unnamed ids (s.flight other) else s.flight other := by
  simp only [flight, delete, Table.get?_alter]
  split
  · rename_i same
    rw [← same]
    cases found : s.inFlight.get? channel with
    | none => rfl
    | some held =>
      simp only [Option.map_some, Option.getD_some]
      exact values_eraseAll_of_filed (filed channel held found) ids
  · rfl

theorem holding_delete {s : Memory} (filed : s.Filed) (channel : String) (ids : List String) :
    (s.delete channel ids).holding channel = unnamed ids (s.holding channel) := by
  rw [holding, queue_delete, if_pos rfl, flight_delete filed, if_pos rfl, holding, unnamed, unnamed, unnamed,
    List.filter_append]

theorem holding_delete_of_ne {s : Memory} (filed : s.Filed) {channel other : String}
    (different : channel ≠ other) (ids : List String) :
    (s.delete channel ids).holding other = s.holding other := by
  rw [holding, queue_delete, if_neg different, flight_delete filed, if_neg different, holding]

theorem filed_delete {s : Memory} (filed : s.Filed) (channel : String) (ids : List String) :
    (s.delete channel ids).Filed := by
  intro other held found e member
  simp only [delete, Table.get?_alter] at found
  split at found
  · obtain ⟨before, there, rfl⟩ := Option.map_eq_some_iff.mp found
    exact filed channel before there e (List.mem_filter.mp member).1
  · exact filed other held found e member

/-- The state after so many messages have been received. -/
def taken (channel : String) (count : Nat) (held : Table (Option String) Message) (s : Memory) : Memory :=
  { s with
    pending := s.pending.put channel ((s.queue channel).drop count)
    inFlight := s.inFlight.put channel
      (held.putAll ((((s.queue channel).take count).map Message.receive).map fun m => (m.id, m))) }

/-- A call either receives so many messages, or it changes nothing. -/
theorem receive_cases (channel : String) (limit : Int) (s : Memory) :
    (∃ held, s.inFlight.get? channel = some held ∧
      Memory.receive channel limit s = (.ok (.ok (((s.queue channel).take limit.toNat).map Message.receive)),
        s.taken channel limit.toNat held)) ∨
    (∃ e, Memory.receive channel limit s = (.ok (.error e), s)) ∨
      ∃ fault, Memory.receive channel limit s = (.error fault, s) := by
  unfold Memory.receive waiting taken queue
  cases s.pending.get? channel with
  | none => exact Or.inr (Or.inl ⟨_, rfl⟩)
  | some waiting =>
    cases s.inFlight.get? channel with
    | none => exact Or.inr (Or.inr ⟨_, rfl⟩)
    | some held => exact Or.inl ⟨held, rfl, rfl⟩

/-- A message whatever the number of its receipts. -/
def blind (m : Message) : Message := { m with received := 0 }

theorem blind_receive (m : Message) : blind m.receive = blind m := rfl

theorem filed_taken {s : Memory} (filed : s.Filed) {channel : String} {held : Table (Option String) Message}
    (found : s.inFlight.get? channel = some held) (count : Nat) : (s.taken channel count held).Filed := by
  intro other after there e member
  simp only [taken, Table.get?_put] at there
  split at there
  · cases there
    rcases Table.mem_of_mem_entries_putAll member with before | now
    · exact filed channel held found e before
    · obtain ⟨m, -, rfl⟩ := List.mem_map.mp now
      rfl
  · exact filed other after there e member

/-- Receiving moves messages from the queue into flight: what the channel holds stays the same, the numbers
of receipts apart, as long as no two of its messages share an identifier. -/
theorem holding_taken {s : Memory} (filed : s.Filed) {channel : String} {held : Table (Option String) Message}
    (found : s.inFlight.get? channel = some held)
    (distinct : ((s.holding channel).map Message.id).Nodup) (count : Nat) :
    (((s.taken channel count held).holding channel).map blind).Perm ((s.holding channel).map blind) := by
  have own := filed channel held found
  have keys : held.keys = held.values.map Message.id := by
    rw [Table.keys, Table.values, List.map_map]
    exact List.map_congr_left own
  have flight_before : s.flight channel = held.values := by rw [flight, found]; rfl
  have front : ((((s.queue channel).take count).map Message.receive).map fun m => (m.id, m)).map Prod.fst =
      ((s.queue channel).take count).map Message.id := by
    rw [List.map_map, List.map_map]
    rfl
  have fresh : (held.keys ++ ((((s.queue channel).take count).map Message.receive).map
      fun m => (m.id, m)).map Prod.fst).Nodup := by
    rw [keys, front]
    rw [holding, flight_before, List.map_append] at distinct
    refine List.nodup_append_comm.mp (distinct.sublist (List.Sublist.append ?_ (List.Sublist.refl _)))
    exact (List.take_sublist count _).map _
  have flight_after : (s.taken channel count held).flight channel =
      held.values ++ ((s.queue channel).take count).map Message.receive := by
    simp only [flight, taken, Table.get?_put, if_true, Option.map_some, Option.getD_some]
    rw [Table.values, Table.entries_putAll_of_fresh fresh, List.map_append, List.map_map]
    simp [Table.values, Function.comp_def]
  have queue_after : (s.taken channel count held).queue channel = (s.queue channel).drop count := by
    simp only [queue, taken, Table.get?_put, if_true, Option.getD_some]
  have moved : (((s.queue channel).take count).map Message.receive).map blind =
      ((s.queue channel).take count).map blind := by
    rw [List.map_map]
    exact List.map_congr_left fun m _ => blind_receive m
  have whole : (s.queue channel).map blind =
      ((s.queue channel).take count).map blind ++ ((s.queue channel).drop count).map blind := by
    rw [← List.map_append, List.take_append_drop]
  rw [holding, queue_after, flight_after, holding, flight_before, List.map_append, List.map_append, moved,
    List.map_append, whole, List.append_assoc, ← List.append_assoc]
  exact List.perm_append_comm

theorem holding_taken_of_ne {channel other : String} (different : channel ≠ other) (count : Nat)
    (held : Table (Option String) Message) (s : Memory) :
    (s.taken channel count held).holding other = s.holding other := by
  simp only [holding, queue, flight, taken, Table.get?_put, if_neg different]

end Depot.Messenger.Memory
