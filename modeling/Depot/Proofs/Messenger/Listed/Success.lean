import Depot.Proofs.Messenger.Listed.Encoding
import Depot.Proofs.Messenger.Listed.Naming
import Depot.Proofs.Messenger.Listed.Receiving

namespace Depot.Messenger.Listed

open ListClient (Data Lawful Request Write fieldsAt hashAt itemsAt listAt)

variable {σ : Type} {held : σ → Data} {ready : σ → Prop} {s later : Listed σ} {channel name : String}

/-- The channel is registered, and then its list has the entries as well, if there are any. -/
theorem items_of_posted {raws : List Bytes} {data data' : Data}
    (done : (posting name channel raws).foldlM Write.run data = some data') :
    itemsAt (Key.pending name channel) data' = itemsAt (Key.pending name channel) data ++ raws := by
  obtain ⟨first, registered, done⟩ := Option.bind_eq_some_iff.mp done
  have kept : first (Key.pending name channel) = data (Key.pending name channel) :=
    Write.run_elsewhere registered (List.mem_singleton.not.mpr Key.registry_ne_pending.symm)
  have same := ListClient.itemsAt_congr kept
  cases raws with
  | nil =>
    cases done
    rw [same, List.append_nil]
  | cons raw rest =>
    obtain ⟨second, pushed, last⟩ := Option.bind_eq_some_iff.mp done
    cases last
    obtain ⟨items, there, placed⟩ := Option.bind_eq_some_iff.mp pushed
    cases placed
    rw [ListClient.itemsAt_eq (ListClient.listAt_put _), ← same, ListClient.itemsAt_eq there]

/-- Fields are removed from those in flight, and nothing else is. -/
theorem fields_of_erased {ids : List String} {data data' : Data}
    (done : (Write.hdel (Key.inFlight name channel) ids).run data = some data') :
    fieldsAt (Key.inFlight name channel) data' =
        (fieldsAt (Key.inFlight name channel) data).eraseAll (ids.map Utf8.encode) ∧
      ∀ key, key ≠ Key.inFlight name channel → data' key = data key := by
  obtain ⟨fields, there, placed⟩ := Option.bind_eq_some_iff.mp done
  cases placed
  rw [ListClient.fieldsAt_eq (ListClient.hashAt_put _), ListClient.fieldsAt_eq there]
  exact ⟨rfl, fun key away => ListClient.put_of_ne away _⟩

/-- The entries that are named are removed from those that wait, and nothing else is. -/
theorem items_of_removed {ids : List String} {items : List Bytes} {data data' : Data}
    (there : listAt (Key.pending name channel) data = some items)
    (done : ((items.filter (isNamed ids)).map (Write.lrem (Key.pending name channel))).foldlM Write.run data =
      some data') :
    itemsAt (Key.pending name channel) data' = items.filter (fun raw => !isNamed ids raw) ∧
      ∀ key, key ≠ Key.pending name channel → data' key = data key := by
  obtain ⟨later, run, left⟩ := Write.lremAll_run there (items.filter (isNamed ids))
  cases done.symm.trans run
  rw [diff_filter] at left
  exact ⟨ListClient.itemsAt_eq left, fun key away => Write.runs_elsewhere run (Write.keys_lremAll away)⟩

variable [ListClient σ]

/-- How entries are removed from a list. Without any there is no transaction. -/
def removing (key : String) (doomed : List Bytes) : Action (Listed σ) (Outcome Unit) := do
  if !doomed.isEmpty then
    onServer (ListClient.transaction (doomed.map fun raw => .lrem key raw))
  return .ok ()

/-- What a deletion does with its channel once there is a client. -/
def clearing (channel : String) (ids : List String) (s : Listed σ) : Action (Listed σ) (Outcome Unit) := do
  onServer (ListClient.write (.hdel (s.inFlightOf channel) ids))
  let doomed ← .ofAttempt (named ids (← onServer (ListClient.items (s.pendingOf channel))))
  removing (s.pendingOf channel) doomed

theorem delete_eq_clearing (channel : String) {ids : List String} (some_named : ids ≠ []) :
    delete channel ids = connected "delete" (some channel) (clearing (σ := σ) channel ids) :=
  if_neg (List.isEmpty_iff.not.mpr some_named)

variable (lawful : Lawful held ready)
include lawful

/-- What has been sent has a binary form, and it is at the end of the list. -/
theorem send_eq_ok {messages : List Message} (sent : send channel messages s = (.ok (.ok ()), later)) :
    ∃ raws, (stampAll s.ids messages).1.mapM Envelope.write = .ok raws ∧
      later.waiting held channel = s.waiting held channel ++ raws := by
  obtain ⟨_, opened, connected, rest⟩ := Action.onSuccess_eq_ok sent
  obtain ⟨settings, ids, data, -⟩ := (reached_of_connect lawful connected).toRests
  rw [Action.bind_state] at rest
  cases written : (stampAll s.ids messages).1.mapM Envelope.write with
  | error fault =>
    obtain ⟨drawn, stopped⟩ := encodeAll_of_unwritten (ids ▸ written)
    cases rest.symm.trans (Action.bind_of_error stopped)
  | ok raws =>
    have rest := (Action.bind_of_ok (encodeAll_of_written (ids ▸ written))).symm.trans rest
    obtain ⟨_, posted, carried, last⟩ := Action.bind_eq_ok (Action.reporting_eq_ok rest)
    obtain ⟨-, rfl⟩ := Prod.mk.inj last
    obtain ⟨server, answered, rfl⟩ := onServer_eq_ok carried
    have added := items_of_posted (lawful.transaction_eq_ok (full_posting _ _ _) answered)
    refine ⟨raws, rfl, ?_⟩
    rw [waiting, waiting, ← pendingOf_congr settings channel, ← data]
    exact added

/-- Messages that fit are sent where no call fails and the writes that they make can be carried out. -/
theorem send_of_ready (start : ready s.server) (reachable : s.Reachable) {messages : List Message}
    (fits : ∀ m ∈ (stampAll s.ids messages).1, Envelope.Fits m) {data : Data}
    (run : (posting s.settings.namespaceName channel ((stampAll s.ids messages).1.map Envelope.form)).foldlM Write.run
      (held s.server) = some data) :
    ∃ later, send channel messages s = (.ok (.ok ()), later) ∧ later.settings = s.settings ∧
      later.ids = (stampAll s.ids messages).2 ∧ later.Reachable ∧ held later.server = data ∧ ready later.server := by
  obtain ⟨opened, connected, reached⟩ := exists_reached lawful start reachable
  have encoded : encodeAll messages opened = _ := encodeAll_of_fits (reached.ids ▸ fits)
  rw [reached.ids] at encoded
  let stamped : Listed σ := { opened with ids := (stampAll s.ids messages).2 }
  rw [← reached.settings, ← reached.data] at run
  obtain ⟨_, server, posted, -, left, stays⟩ := ask_of_ready lawful (s := stamped) (full_posting _ _ _)
    (reached.ready start) (Request.transaction_run run)
  refine ⟨{ stamped with server }, ?_, reached.settings, rfl, .inl reached.isOpen, left, stays⟩
  refine (Action.onSuccess_of_ok connected).trans ((Action.bind_of_ok rfl).trans ?_)
  refine (Action.bind_of_ok encoded).trans (Action.reporting_of_ok ?_)
  exact (Action.bind_of_ok posted).trans rfl

theorem removing_eq_ok {ids : List String} {items : List Bytes}
    (there : listAt (Key.pending name channel) (held s.server) = some items)
    (removed : removing (Key.pending name channel) (items.filter (isNamed ids)) s = (.ok (.ok ()), later)) :
    later.settings = s.settings ∧
      itemsAt (Key.pending name channel) (held later.server) = items.filter (fun raw => !isNamed ids raw) ∧
      ∀ key, key ≠ Key.pending name channel → held later.server key = held s.server key := by
  unfold removing at removed
  dsimp only at removed
  split at removed
  · obtain ⟨_, _, remove, last⟩ := Action.bind_eq_ok removed
    obtain ⟨server, removing, rfl⟩ := onServer_eq_ok remove
    obtain ⟨-, rfl⟩ := Prod.mk.inj last
    have full : ∀ w ∈ (items.filter (isNamed ids)).map (Write.lrem (Key.pending name channel)), w.Full :=
      List.forall_mem_map.mpr fun _ _ => trivial
    exact ⟨rfl, items_of_removed there (lawful.transaction_eq_ok full removing)⟩
  · rename_i none_doomed
    obtain ⟨-, rfl⟩ := Prod.mk.inj removed
    have nothing : items.filter (isNamed ids) = [] := by simpa using none_doomed
    refine ⟨rfl, ?_, fun _ _ => rfl⟩
    rw [← diff_filter, nothing, List.diff_nil]
    exact ListClient.itemsAt_eq there

/-- What is named is gone after a deletion that succeeds, from the entries that wait and from those in flight. -/
theorem clearing_eq_ok {ids : List String} (some_named : ids ≠ [])
    (cleared : clearing channel ids s s = (.ok (.ok ()), later)) :
    later.settings = s.settings ∧
      later.waiting held channel = (s.waiting held channel).filter (fun raw => !isNamed ids raw) ∧
      later.flight held channel = (s.flight held channel).eraseAll (ids.map Utf8.encode) := by
  obtain ⟨_, _, erase, body⟩ := Action.bind_eq_ok cleared
  obtain ⟨erased, erasing, rfl⟩ := onServer_eq_ok erase
  obtain ⟨told, _, look, body⟩ := Action.bind_eq_ok body
  obtain ⟨looked, looking, rfl⟩ := onServer_eq_ok look
  obtain ⟨doomed, _, tell, body⟩ := Action.bind_eq_ok body
  obtain ⟨telling, rfl⟩ := Prod.mk.inj tell
  cases named_eq_ok telling
  obtain ⟨fields, others⟩ := fields_of_erased (lawful.write_eq_ok some_named erasing)
  obtain ⟨there, same⟩ := lawful.items_eq_ok looking
  obtain ⟨settings, items, kept⟩ :=
    removing_eq_ok lawful (s := { s with server := looked }) (same ▸ there) body
  -- The list is the one from before the call, which the hash has nothing to do with.
  have before : s.waiting held channel = told :=
    (ListClient.itemsAt_congr (others _ Key.pending_ne_inFlight)).symm.trans (ListClient.itemsAt_eq there)
  have hash := ListClient.fieldsAt_congr (kept (s.inFlightOf channel) Key.pending_ne_inFlight.symm)
  refine ⟨settings, ?_, ?_⟩
  · rw [before, waiting, pendingOf_congr settings]
    exact items
  · rw [flight, inFlightOf_congr settings]
    exact hash.trans ((congrArg (fieldsAt _) same).trans fields)

theorem delete_eq_ok {ids : List String} (some_named : ids ≠ [])
    (deleted : delete channel ids s = (.ok (.ok ()), later)) :
    later.waiting held channel = (s.waiting held channel).filter (fun raw => !isNamed ids raw) ∧
      later.flight held channel = (s.flight held channel).eraseAll (ids.map Utf8.encode) := by
  rw [delete_eq_clearing channel some_named] at deleted
  obtain ⟨_, opened, connected, body⟩ := Action.onSuccess_eq_ok deleted
  obtain ⟨settings, -, data, -⟩ := (reached_of_connect lawful connected).toRests
  rw [Action.bind_state] at body
  obtain ⟨-, waits, flies⟩ := clearing_eq_ok lawful some_named (Action.reporting_eq_ok body)
  have same : Untouched held channel s opened := untouched_of_data opened settings data channel
  rw [waits, flies, same.waiting, same.flight]
  exact ⟨rfl, rfl⟩

end Depot.Messenger.Listed
