import Depot.Proofs.Message.Envelope
import Depot.Proofs.Messenger.Listed.Connection
import Depot.Proofs.Messenger.Listed.Encoding
import Depot.Proofs.Messenger.Listed.Naming
import Depot.Proofs.Messenger.View

namespace Depot.Messenger

open ListClient (Data Write hashAt listAt put setAt)
open ListClient.Request (fieldOf)
open Listed (Key.registry Key.pending Key.inFlight)

/-- A message in flight as a field of a hash. -/
def heldField (e : Option String × Message) : Bytes × Bytes := (fieldOf e.1, Envelope.form e.2)

namespace View

structure LaidOut (v : View) (name : String) (data : Data) : Prop where
  registry : ∃ members, setAt (Key.registry name) data = some members ∧ members.keys = v.names.map Utf8.encode
  pending : ∀ channel, listAt (Key.pending name channel) data = some ((v.queue channel).map Envelope.form)
  inFlight : ∀ channel, ∃ fields, hashAt (Key.inFlight name channel) data = some fields ∧
    fields.entries = (v.held channel).entries.map heldField

namespace LaidOut

variable {v : View} {name channel : String} {data later : Data}

theorem nothing (name : String) : (⟨[], fun _ => [], fun _ => .empty⟩ : View).LaidOut name fun _ => none :=
  ⟨⟨.empty, rfl, rfl⟩, fun _ => rfl, fun _ => ⟨.empty, rfl, rfl⟩⟩

theorem setNames (laid : v.LaidOut name data) {members : Table Bytes Unit} {names : List String}
    (keys : members.keys = names.map Utf8.encode) :
    { v with names }.LaidOut name (put (Key.registry name) (.set members) data) where
  registry := ⟨members, ListClient.setAt_put members, keys⟩
  pending channel := by
    rw [ListClient.listAt_congr (ListClient.put_of_ne Listed.Key.registry_ne_pending.symm _)]
    exact laid.pending channel
  inFlight channel := by
    rw [ListClient.hashAt_congr (ListClient.put_of_ne Listed.Key.registry_ne_inFlight.symm _)]
    exact laid.inFlight channel

theorem setQueue (laid : v.LaidOut name data) {messages : List Message}
    (here : listAt (Key.pending name channel) later = some (messages.map Envelope.form))
    (elsewhere : ∀ other, other ≠ Key.pending name channel → later other = data other) :
    (v.setQueue channel messages).LaidOut name later where
  registry := by
    rw [ListClient.setAt_congr (elsewhere _ Listed.Key.registry_ne_pending)]
    exact laid.registry
  pending other := by
    simp only [View.setQueue, update_eq_ite]
    split
    · rename_i same
      exact same ▸ here
    · rename_i different
      rw [ListClient.listAt_congr (elsewhere _ fun same => different (Listed.Key.pending_inj.mp same).symm)]
      exact laid.pending other
  inFlight other := by
    rw [ListClient.hashAt_congr (elsewhere _ Listed.Key.pending_ne_inFlight.symm)]
    exact laid.inFlight other

theorem setHeld (laid : v.LaidOut name data) {messages : Table (Option String) Message} {fields : Table Bytes Bytes}
    (here : hashAt (Key.inFlight name channel) later = some fields)
    (elsewhere : ∀ other, other ≠ Key.inFlight name channel → later other = data other)
    (entries : fields.entries = messages.entries.map heldField) :
    (v.setHeld channel messages).LaidOut name later where
  registry := by
    rw [ListClient.setAt_congr (elsewhere _ Listed.Key.registry_ne_inFlight)]
    exact laid.registry
  pending other := by
    rw [ListClient.listAt_congr (elsewhere _ Listed.Key.pending_ne_inFlight)]
    exact laid.pending other
  inFlight other := by
    simp only [View.setHeld, update_eq_ite]
    split
    · rename_i same
      exact ⟨fields, same ▸ here, entries⟩
    · rename_i different
      rw [ListClient.hashAt_congr (elsewhere _ fun same => different (Listed.Key.inFlight_inj.mp same).symm)]
      exact laid.inFlight other

theorem mem_encode {names : List String} {channel : String} :
    Utf8.encode channel ∈ names.map Utf8.encode ↔ channel ∈ names :=
  List.mem_map_of_injective fun _ _ same => Utf8.encode_inj.mp same

theorem keys_enlisted (names known : List String) {members : Table Bytes Unit}
    (keys : members.keys = known.map Utf8.encode) :
    (members.putAll (names.map fun m => (Utf8.encode m, ()))).keys =
      (names.foldl (fun known name => if name ∈ known then known else known ++ [name]) known).map
        Utf8.encode := by
  induction names generalizing known members with
  | nil => exact keys
  | cons first rest ih =>
    have one : (members.put (Utf8.encode first) ()).keys =
        (if first ∈ known then known else known ++ [first]).map Utf8.encode := by
      rw [Table.keys_put, keys]
      simp only [mem_encode]
      split
      · rfl
      · rw [List.map_append, List.map_singleton]
    exact ih _ one

theorem sadd_run (laid : v.LaidOut name data) (names : List String) :
    ∃ later, (Write.sadd (Key.registry name) names).run data = some later ∧ (v.enlist names).LaidOut name later := by
  obtain ⟨members, there, keys⟩ := laid.registry
  exact ⟨_, Write.sadd_run there names, laid.setNames (keys_enlisted names v.names keys)⟩

theorem srem_run (laid : v.LaidOut name data) (names : List String) :
    ∃ later, (Write.srem (Key.registry name) names).run data = some later ∧
      { v with names := v.names.filter fun name => !names.contains name }.LaidOut name later := by
  obtain ⟨members, there, keys⟩ := laid.registry
  refine ⟨_, Write.srem_run there names, laid.setNames ?_⟩
  rw [Table.keys_eraseAll, keys, List.filter_map]
  refine congrArg _ (List.filter_congr fun channel _ => ?_)
  simp only [Function.comp_apply, List.contains_eq_mem, mem_encode]

theorem rpush_run (laid : v.LaidOut name data) (channel : String) (messages : List Message) :
    ∃ later, (Write.rpush (Key.pending name channel) (messages.map Envelope.form)).run data = some later ∧
      (v.append channel messages).LaidOut name later := by
  refine ⟨_, Write.rpush_run (laid.pending channel) _,
    laid.setQueue ?_ fun other away => ListClient.put_of_ne away _⟩
  rw [ListClient.listAt_put, List.map_append]

/-- The writes of a transaction that sends. Without messages the channel alone is written. -/
theorem posting_run (laid : v.LaidOut name data) (channel : String) (messages : List Message) :
    ∃ later, (Listed.posting name channel (messages.map Envelope.form)).foldlM Write.run data = some later ∧
      ((v.enlist [channel]).append channel messages).LaidOut name later := by
  obtain ⟨first, added, registered⟩ := laid.sadd_run [channel]
  rw [Listed.posting, List.foldlM_cons, added]
  cases messages with
  | nil => exact ⟨first, rfl, (View.append_nil ..).symm ▸ registered⟩
  | cons m rest =>
    obtain ⟨later, pushed, laid⟩ := registered.rpush_run channel (m :: rest)
    exact ⟨later, (congrArg (· >>= pure) pushed).trans rfl, laid⟩

/-- Messages that are received are filed under names that do not clash. -/
theorem entries_taken (sound : v.Sound) {fields : Table Bytes Bytes}
    (entries : fields.entries = (v.held channel).entries.map heldField) (count : Nat) :
    (fields.putAll (((v.received channel count).map fun m => (m.id, m)).map heldField)).entries =
      ((v.held channel).putAll ((v.received channel count).map fun m => (m.id, m))).entries.map
        heldField := by
  refine Table.entries_putAll_map (P := fun id => id.isSome) (fun _ _ => ListClient.Request.fieldOf_injective)
    entries (fun _ => sound.id_of_held) (fun e member => ?_)
  obtain ⟨m, given, rfl⟩ := List.mem_map.mp member
  exact (sound.of_received given).1

/-- Messages in flight are removed under names that do not clash. -/
theorem entries_removed (sound : v.Sound) {fields : Table Bytes Bytes}
    (entries : fields.entries = (v.held channel).entries.map heldField) (ids : List String) :
    (fields.eraseAll (ids.map Utf8.encode)).entries =
      ((v.held channel).eraseAll (ids.map some)).entries.map heldField := by
  have named : ids.map Utf8.encode = (ids.map some).map fieldOf := by
    rw [List.map_map]
    rfl
  rw [named]
  refine Table.entries_eraseAll_map (P := fun id => id.isSome) (fun _ _ => ListClient.Request.fieldOf_injective)
    entries (fun _ => sound.id_of_held) (fun id member => ?_)
  obtain ⟨id, -, rfl⟩ := List.mem_map.mp member
  rfl

/-- The messages that are named are gone from both collections of the channel. -/
theorem remove (laid : v.LaidOut name data) {ids : List String} {fields : Table Bytes Bytes}
    (list : listAt (Key.pending name channel) later = some ((Memory.unnamed ids (v.queue channel)).map Envelope.form))
    (hash : hashAt (Key.inFlight name channel) later = some fields)
    (entries : fields.entries = ((v.held channel).eraseAll (ids.map some)).entries.map heldField)
    (elsewhere : ∀ key, key ≠ Key.pending name channel → key ≠ Key.inFlight name channel → later key = data key) :
    (v.remove channel ids).LaidOut name later where
  registry := by
    rw [ListClient.setAt_congr (elsewhere _ Listed.Key.registry_ne_pending Listed.Key.registry_ne_inFlight)]
    exact laid.registry
  pending other := by
    simp only [View.remove, View.setQueue, View.setHeld, update_eq_ite]
    split
    · rename_i same
      exact same ▸ list
    · rename_i different
      rw [ListClient.listAt_congr (elsewhere _ (fun same => different (Listed.Key.pending_inj.mp same).symm)
        Listed.Key.pending_ne_inFlight)]
      exact laid.pending other
  inFlight other := by
    simp only [View.remove, View.setQueue, View.setHeld, update_eq_ite]
    split
    · rename_i same
      exact ⟨fields, same ▸ hash, entries⟩
    · rename_i different
      rw [ListClient.hashAt_congr (elsewhere _ Listed.Key.pending_ne_inFlight.symm
        fun same => different (Listed.Key.inFlight_inj.mp same).symm)]
      exact laid.inFlight other

theorem not_mem_map {f : String → String} {key : String} (different : ∀ channel, key ≠ f channel)
    (names : List String) : key ∉ names.map f := by
  rintro member
  obtain ⟨channel, -, same⟩ := List.mem_map.mp member
  exact different channel same.symm

/-- Collections that are deleted are as good as empty. -/
theorem delete_pending_run (laid : v.LaidOut name data) (names : List String) :
    ∃ later, (Write.delete (names.map (Key.pending name))).run data = some later ∧
      { v with queue := fun channel => if channel ∈ names then [] else v.queue channel }.LaidOut name later := by
  obtain ⟨later, run, gone, left⟩ := Write.delete_run (names.map (Key.pending name)) data
  refine ⟨later, run, ?_, fun channel => ?_, fun channel => ?_⟩
  · rw [ListClient.setAt_congr (left _ (not_mem_map (fun _ => Listed.Key.registry_ne_pending) names))]
    exact laid.registry
  · have named := List.mem_map_of_injective (Listed.Key.pending_injective name) (a := channel) (l := names)
    by_cases deleted : channel ∈ names
    · simp only [listAt, gone _ (named.mpr deleted), if_pos deleted, List.map_nil]
    · rw [ListClient.listAt_congr (left _ (named.not.mpr deleted))]
      simp only [if_neg deleted]
      exact laid.pending channel
  · rw [ListClient.hashAt_congr (left _ (not_mem_map (fun _ => Listed.Key.pending_ne_inFlight.symm) names))]
    exact laid.inFlight channel

theorem delete_inFlight_run (laid : v.LaidOut name data) (names : List String) :
    ∃ later, (Write.delete (names.map (Key.inFlight name))).run data = some later ∧
      { v with held := fun channel => if channel ∈ names then .empty else v.held channel }.LaidOut name later := by
  obtain ⟨later, run, gone, left⟩ := Write.delete_run (names.map (Key.inFlight name)) data
  refine ⟨later, run, ?_, fun channel => ?_, fun channel => ?_⟩
  · rw [ListClient.setAt_congr (left _ (not_mem_map (fun _ => Listed.Key.registry_ne_inFlight) names))]
    exact laid.registry
  · rw [ListClient.listAt_congr (left _ (not_mem_map (fun _ => Listed.Key.pending_ne_inFlight) names))]
    exact laid.pending channel
  · have named := List.mem_map_of_injective (Listed.Key.inFlight_injective name) (a := channel) (l := names)
    by_cases deleted : channel ∈ names
    · refine ⟨.empty, ?_, ?_⟩
      · simp only [hashAt, gone _ (named.mpr deleted)]
      · simp only [if_pos deleted]
        rfl
    · rw [ListClient.hashAt_congr (left _ (named.not.mpr deleted))]
      simp only [if_neg deleted]
      exact laid.inFlight channel

/-- The three writes of a transaction that deletes channels. -/
theorem discard_run (laid : v.LaidOut name data) (names : List String) :
    ∃ later, [Write.delete (names.map (Key.pending name)), .delete (names.map (Key.inFlight name)),
        .srem (Key.registry name) names].foldlM Write.run data = some later ∧
      (v.discard names).LaidOut name later := by
  obtain ⟨first, queues, laid⟩ := laid.delete_pending_run names
  obtain ⟨second, flights, laid⟩ := laid.delete_inFlight_run names
  obtain ⟨later, registry, laid⟩ := laid.srem_run names
  refine ⟨later, ?_, laid⟩
  simp only [List.foldlM_cons, List.foldlM_nil, queues, flights, registry, bind, Option.bind]
  rfl

end LaidOut
end View
end Depot.Messenger
