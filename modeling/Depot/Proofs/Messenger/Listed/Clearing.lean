import Depot.Proofs.Messenger.Listed.Success

namespace Depot.Messenger.Listed

open ListClient (Data Lawful Request Write hashAt listAt)

variable {σ : Type} {held : σ → Data} {ready : σ → Prop} {s : Listed σ} {channel : String} {ids : List String}

/-- A server that answers and has for a channel a list of messages, which may repeat, and a hash. -/
structure Legible (held : σ → Data) (ready : σ → Prop) (channel : String) (s : Listed σ) : Prop where
  start : ready s.server
  reachable : s.Reachable
  list : (listAt (s.pendingOf channel) (held s.server)).isSome
  hash : (hashAt (s.inFlightOf channel) (held s.server)).isSome
  read : ∀ raw ∈ s.waiting held channel, ∃ m, Envelope.read raw = .ok m

/-- The messages named are gone from the two collections of a channel, and all others are as they were. -/
structure Cleared (held : σ → Data) (channel : String) (ids : List String) (s later : Listed σ) : Prop where
  settings : later.settings = s.settings
  supply : later.ids = s.ids
  waiting : later.waiting held channel = (s.waiting held channel).filter fun raw => !isNamed ids raw
  flight : later.flight held channel = (s.flight held channel).eraseAll (ids.map Utf8.encode)
  elsewhere : ∀ key, key ≠ s.pendingOf channel → key ≠ s.inFlightOf channel → held later.server key = held s.server key

theorem Legible.of_reached (legible : s.Legible held ready channel) {opened : Listed σ}
    (reached : Reached held ready s opened) : opened.Legible held ready channel := by
  have same : Untouched held channel s opened := untouched_of_data opened reached.settings reached.data channel
  refine ⟨reached.ready legible.start, .inl reached.isOpen, ?_, ?_, same.waiting ▸ legible.read⟩
  · rw [pendingOf_congr reached.settings, reached.data]
    exact legible.list
  · rw [inFlightOf_congr reached.settings, reached.data]
    exact legible.hash

namespace Cleared

variable {later : Listed σ} (cleared : Cleared held channel ids s later) (legible : later.Legible held ready channel)
include cleared legible

theorem list : listAt (s.pendingOf channel) (held later.server) =
    some ((s.waiting held channel).filter fun raw => !isNamed ids raw) := by
  obtain ⟨items, list⟩ := Option.isSome_iff_exists.mp legible.list
  rw [← cleared.waiting, ← pendingOf_congr cleared.settings, list]
  exact congrArg some (ListClient.itemsAt_eq list).symm

theorem hash : hashAt (s.inFlightOf channel) (held later.server) =
    some ((s.flight held channel).eraseAll (ids.map Utf8.encode)) := by
  obtain ⟨fields, hash⟩ := Option.isSome_iff_exists.mp legible.hash
  rw [← cleared.flight, ← inFlightOf_congr cleared.settings, hash]
  exact congrArg some (ListClient.fieldsAt_eq hash).symm

end Cleared

variable [ListClient σ]

section

variable (lawful : Lawful held ready)
include lawful

theorem removing_run (start : ready s.server) {key : String} {items : List Bytes}
    (list : listAt key (held s.server) = some items) (doomed : List Bytes) :
    ∃ server, removing key doomed s = (.ok (.ok ()), { s with server }) ∧ ready server ∧
      (listAt key (held server)).isSome ∧ ∀ other, other ≠ key → held server other = held s.server other := by
  cases doomed with
  | nil => exact ⟨s.server, rfl, start, Option.isSome_of_eq_some list, fun _ _ => rfl⟩
  | cons raw rest =>
    have full : (Request.transaction ((raw :: rest).map (Write.lrem key))).Full :=
      List.forall_mem_map.mpr fun _ _ => trivial
    obtain ⟨data, run, left⟩ := Write.lremAll_run list (raw :: rest)
    obtain ⟨_, server, put, -, rfl, start⟩ := ask_of_ready lawful full start (Request.transaction_run run)
    exact ⟨server, (Action.bind_of_ok put).trans rfl, start, Option.isSome_of_eq_some left,
      fun other away => Write.runs_elsewhere run (Write.keys_lremAll away)⟩

namespace Legible

/-- The fields are removed by one write and the entries by a transaction. Both collections are still of their kind. -/
theorem clearing_run (legible : s.Legible held ready channel) (some_named : ids ≠ []) :
    ∃ server, clearing channel ids s s = (.ok (.ok ()), { s with server }) ∧ ready server ∧
      (listAt (s.pendingOf channel) (held server)).isSome ∧ (hashAt (s.inFlightOf channel) (held server)).isSome ∧
      ∀ key, key ≠ s.pendingOf channel → key ≠ s.inFlightOf channel → held server key = held s.server key := by
  obtain ⟨items, list⟩ := Option.isSome_iff_exists.mp legible.list
  obtain ⟨fields, hash⟩ := Option.isSome_iff_exists.mp legible.hash
  have erases : (Request.write (.hdel (s.inFlightOf channel) ids)).Full := some_named
  obtain ⟨_, erased, erase, -, left, start⟩ :=
    ask_of_ready lawful erases legible.start (Request.write_run (Write.hdel_run hash ids))
  have still : listAt (s.pendingOf channel) (held erased) = some items := by
    rw [left]
    exact (ListClient.listAt_congr (ListClient.put_of_ne Key.pending_ne_inFlight _)).trans list
  have looks : (Request.items (s.pendingOf channel)).Full := trivial
  obtain ⟨told, looked, look, same, kept, start⟩ :=
    ask_of_ready lawful (s := { s with server := erased }) looks start (Request.items_run still)
  have tell : named ids told = .ok (items.filter (isNamed ids)) := by
    rw [show told = items from same]
    exact named_of_read (ListClient.itemsAt_eq list ▸ legible.read)
  obtain ⟨server, removed, start, some_list, others⟩ := removing_run lawful (s := { s with server := looked }) start
    (kept ▸ still) (items.filter (isNamed ids))
  refine ⟨server, ?_, start, some_list, ?_, fun key away away' => ?_⟩
  · refine (Action.bind_of_ok erase).trans ((Action.bind_of_ok look).trans ?_)
    exact (Action.bind_of_ok (congrArg (·, _) tell)).trans removed
  · have hash := ListClient.hashAt_congr (others (s.inFlightOf channel) Key.pending_ne_inFlight.symm)
    rw [hash, kept, left, ListClient.hashAt_put]
    rfl
  · rw [others key away, kept, left]
    exact ListClient.put_of_ne away' _

theorem delete (legible : s.Legible held ready channel) (some_named : ids ≠ []) :
    ∃ later, Listed.delete channel ids s = (.ok (.ok ()), later) ∧ later.Legible held ready channel ∧
      Cleared held channel ids s later := by
  obtain ⟨opened, connected, reached⟩ := exists_reached lawful legible.start legible.reachable
  obtain ⟨server, run, start, list, hash, others⟩ := (legible.of_reached reached).clearing_run lawful some_named
  let later : Listed σ := { opened with server }
  have deleted : Listed.delete channel ids s = (.ok (.ok ()), later) := by
    rw [delete_eq_clearing channel some_named]
    exact (Action.onSuccess_of_ok connected).trans ((Action.bind_state ..).trans (Action.reporting_of_ok run))
  obtain ⟨waiting, flight⟩ := delete_eq_ok lawful some_named deleted
  refine ⟨later, deleted, ⟨start, .inl reached.isOpen, list, hash, fun raw member => legible.read raw ?_⟩,
    reached.settings, reached.ids, waiting, flight, fun key away away' => ?_⟩
  · rw [waiting] at member
    exact (List.mem_filter.mp member).1
  · rw [← reached.data]
    refine others key ?_ ?_
    · rwa [pendingOf_congr reached.settings]
    · rwa [inFlightOf_congr reached.settings]

end Legible

end
end Depot.Messenger.Listed
