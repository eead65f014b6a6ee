import Depot.Proofs.Messenger.DeadLetters
import Depot.Proofs.Messenger.Listed.Clearing
import Depot.Proofs.Messenger.Postings

namespace Depot.Messenger

open ListClient (Data Lawful membersAt)

namespace Memory

variable {ids more : List String}

theorem isNamed_congr (same : ∀ id, id ∈ ids ↔ id ∈ more) : isNamed ids = isNamed more := by
  funext message
  rw [Bool.eq_iff_iff, isNamed_iff, isNamed_iff]
  simp only [same]

theorem isNamed_append (message : Message) :
    isNamed (ids ++ more) message = (isNamed ids message || isNamed more message) := by
  rw [Bool.eq_iff_iff, Bool.or_eq_true, isNamed_iff, isNamed_iff, isNamed_iff]
  constructor
  · rintro ⟨id, given, among⟩
    exact (List.mem_append.mp among).imp (⟨id, given, ·⟩) (⟨id, given, ·⟩)
  · rintro (⟨id, given, among⟩ | ⟨id, given, among⟩)
    · exact ⟨id, given, List.mem_append_left _ among⟩
    · exact ⟨id, given, List.mem_append_right _ among⟩

end Memory

namespace Shelves

variable {σ α κ ν : Type} [DecidableEq κ] (v : Shelves σ α κ) (names : σ → List ν)

/-- The entries that are not messages among those named. -/
def spared (ids : List String) (entries : List α) : List α :=
  entries.filter fun a => !(v.message? a).any (Memory.isNamed ids)

/-- The messages named are gone from their channel. The other channels are as they were, and so are the names of
all of them. -/
structure Deleted (channel : String) (ids : List String) (s later : σ) : Prop where
  waiting : v.waiting channel later = v.spared ids (v.waiting channel s)
  flight : v.flight channel later = (v.flight channel s).eraseAll (ids.map v.key)
  elsewhere : ∀ other, channel ≠ other → v.Untouched other s later
  names : names later = names s

/-- The same channels with the same messages. -/
structure Alike (s t : σ) : Prop where
  untouched : ∀ channel, v.Untouched channel s t
  names : names t = names s

/-- What deletions on a channel do in a state: one succeeds and deletes what it names, the same one again does
nothing more, and any number of them, which all succeed, do what one does that names the same messages. -/
structure Deletes (m : Messenger σ) (channel : String) (s : σ) : Prop where
  once : ∀ ids, ∃ later, m.delete channel ids s = (.ok (.ok ()), later) ∧ v.Deleted names channel ids s later
  again : ∀ ids, v.Alike names (m.delete channel ids s).2 (m.delete channel ids (m.delete channel ids s).2).2
  together : ∀ (batches : List (List String)) (ids : List String),
    (∀ id, id ∈ ids ↔ ∃ batch ∈ batches, id ∈ batch) →
      (∀ step ∈ run m (batches.map (Call.delete channel)) s, step.1 = .ok (.ok .done)) ∧
        v.Alike names (m.delete channel ids s).2 (stateAfter m (batches.map (Call.delete channel)) s)

variable {v names} {m : Messenger σ} {channel : String} {ids more : List String} {s t later : σ}

omit [DecidableEq κ] in
theorem spared_nil (entries : List α) : v.spared [] entries = entries := by
  refine List.filter_eq_self.mpr fun a _ => ?_
  cases v.message? a with
  | none => rfl
  | some message => cases given : message.id <;> simp [Memory.isNamed, given]

omit [DecidableEq κ] in
theorem spared_spared (entries : List α) :
    v.spared more (v.spared ids entries) = v.spared (ids ++ more) entries := by
  rw [spared, spared, List.filter_filter, spared]
  refine List.filter_congr fun a _ => ?_
  cases v.message? a with
  | none => rfl
  | some message =>
    rw [Option.any_some, Option.any_some, Option.any_some, Memory.isNamed_append, Bool.not_or, Bool.and_comm]

namespace Deleted

theorem nothing (channel : String) (s : σ) : v.Deleted names channel [] s s where
  waiting := (spared_nil _).symm
  flight := (Table.eraseAll_of_absent fun _ nowhere => absurd nowhere List.not_mem_nil).symm
  elsewhere _ _ := ⟨rfl, rfl⟩
  names := rfl

theorem trans (first : v.Deleted names channel ids s t) (second : v.Deleted names channel more t later) :
    v.Deleted names channel (ids ++ more) s later where
  waiting := by rw [second.waiting, first.waiting, spared_spared]
  flight := by rw [second.flight, first.flight, Table.eraseAll_eraseAll, List.map_append]
  elsewhere other different := by
    obtain ⟨waiting, flight⟩ := first.elsewhere other different
    obtain ⟨waiting', flight'⟩ := second.elsewhere other different
    exact ⟨waiting'.trans waiting, flight'.trans flight⟩
  names := second.names.trans first.names

/-- It does not matter in which order messages are named, nor how often. -/
theorem congr (same : ∀ id, id ∈ ids ↔ id ∈ more) (deleted : v.Deleted names channel ids s later) :
    v.Deleted names channel more s later where
  waiting := by rw [deleted.waiting, spared, Memory.isNamed_congr same, spared]
  flight := by
    rw [deleted.flight]
    refine Table.eraseAll_congr (fun k => ?_) _
    simp only [List.mem_map, same]
  elsewhere := deleted.elsewhere
  names := deleted.names

theorem alike (left : v.Deleted names channel ids s t) (right : v.Deleted names channel ids s later) :
    v.Alike names t later where
  untouched other := by
    by_cases same : channel = other
    · subst same
      exact ⟨right.waiting.trans left.waiting.symm, right.flight.trans left.flight.symm⟩
    · obtain ⟨waiting, flight⟩ := left.elsewhere other same
      obtain ⟨waiting', flight'⟩ := right.elsewhere other same
      exact ⟨waiting'.trans waiting.symm, flight'.trans flight.symm⟩
  names := right.names.trans left.names.symm

end Deleted

section

variable {P : σ → Prop} (step : ∀ s, P s → ∀ ids, ∃ later,
  m.delete channel ids s = (.ok (.ok ()), later) ∧ P later ∧ v.Deleted names channel ids s later)
include step

/-- Deletions one after another, each from the state that the one before leaves. -/
theorem run_deletions (ready : P s) (batches : List (List String)) :
    (∀ step ∈ run m (batches.map (Call.delete channel)) s, step.1 = .ok (.ok .done)) ∧
      v.Deleted names channel batches.flatten s (stateAfter m (batches.map (Call.delete channel)) s) := by
  induction batches generalizing s with
  | nil => exact ⟨fun _ nowhere => (nomatch nowhere), .nothing channel s⟩
  | cons ids rest ih =>
    obtain ⟨middle, done, ready, first⟩ := step s ready ids
    have answered : (Call.delete channel ids).on m s = (.ok (.ok .done), middle) := answering_of_ok done
    obtain ⟨answers, others⟩ := ih ready
    rw [List.map_cons, Messenger.run, stateAfter, List.foldl_cons, answered, ← stateAfter]
    exact ⟨List.forall_mem_cons.mpr ⟨rfl, answers⟩, first.trans others⟩

theorem deletes (ready : P s) : v.Deletes names m channel s := by
  have together (batches : List (List String)) (ids : List String)
      (same : ∀ id, id ∈ ids ↔ ∃ batch ∈ batches, id ∈ batch) :
      (∀ step ∈ run m (batches.map (Call.delete channel)) s, step.1 = .ok (.ok .done)) ∧
        v.Alike names (m.delete channel ids s).2 (stateAfter m (batches.map (Call.delete channel)) s) := by
    obtain ⟨answers, deleted⟩ := run_deletions step ready batches
    obtain ⟨later, done, -, single⟩ := step s ready ids
    rw [done]
    refine ⟨answers, single.alike (deleted.congr fun id => ?_)⟩
    rw [List.mem_flatten, same]
  refine ⟨fun ids => ?_, fun ids => ?_, together⟩
  · obtain ⟨later, done, -, deleted⟩ := step s ready ids
    exact ⟨later, done, deleted⟩
  · obtain ⟨first, done, ready, deleted⟩ := step s ready ids
    obtain ⟨second, done', -, deleted'⟩ := step first ready ids
    rw [done, done']
    exact deleted.alike ((deleted.trans deleted').congr fun id => by rw [List.mem_append, or_self])

end

end Shelves

namespace Memory

variable {channel : String} {s : Memory}

/-- The names of the channels. -/
def listing (s : Memory) : List String := s.pending.keys

theorem deleted_delete (channel : String) (ids : List String) (s : Memory) :
    shelves.Deleted listing channel ids s (s.delete channel ids) where
  waiting := (queue_delete channel channel ids s).trans (if_pos rfl)
  flight := (congrFun (congrArg View.held (view_delete channel ids s)) channel).trans (Function.update_self ..)
  elsewhere _ different := shelves_lawful.delete_elsewhere different ids s
  names := Table.keys_alter ..

end Memory

namespace Listed

variable {σ : Type} {held : σ → Data} {ready : σ → Prop} {s : Listed σ} {channel : String} {ids : List String}

/-- The members of the set of channels. -/
def listing (held : σ → Data) (s : Listed σ) : List Bytes := membersAt s.registry (held s.server)

variable [ListClient σ]

theorem Legible.deletes (lawful : Lawful held ready) (legible : s.Legible held ready channel) (ids : List String) :
    ∃ later, Listed.delete channel ids s = (.ok (.ok ()), later) ∧ later.Legible held ready channel ∧
      (shelves held).Deleted (listing held) channel ids s later := by
  by_cases nothing : ids = []
  · subst nothing
    exact ⟨s, rfl, legible, .nothing channel s⟩
  obtain ⟨later, run, legible, cleared⟩ := legible.delete lawful nothing
  refine ⟨later, run, legible, cleared.waiting, cleared.flight, fun other different => ⟨?_, ?_⟩, ?_⟩
  · change waiting held later other = waiting held s other
    rw [waiting, pendingOf_congr cleared.settings]
    exact ListClient.itemsAt_congr (cleared.elsewhere _ (fun same => different (Key.pending_inj.mp same).symm)
      Key.pending_ne_inFlight)
  · change flight held later other = flight held s other
    rw [flight, inFlightOf_congr cleared.settings]
    exact ListClient.fieldsAt_congr (cleared.elsewhere _ Key.pending_ne_inFlight.symm
      fun same => different (Key.inFlight_inj.mp same).symm)
  · rw [listing, registry_congr cleared.settings]
    exact ListClient.membersAt_congr (cleared.elsewhere _ Key.registry_ne_pending Key.registry_ne_inFlight)

end Listed

/-- Deleting takes exactly the messages that are named, in memory whatever is held, and on a server where no call fails
whatever entries wait, equal ones and ones with the same identifier among them, as long as they can be read. The
deletion succeeds. The entries that stay keep their order, the other channels and the names of all of them are as
they were, and what several deletions do depends on the identifiers alone that they name together. -/
theorem delete_takes_named (channel : String) :
    (∀ s : Memory, Memory.shelves.Deletes Memory.listing memory channel s) ∧
      ∀ (σ : Type) [ListClient σ] (held : σ → Data) (ready : σ → Prop), Lawful held ready →
        ∀ s : Listed σ, s.Legible held ready channel →
          (Listed.shelves held).Deletes (Listed.listing held) listed channel s := by
  constructor
  · intro s
    exact Shelves.deletes (P := fun _ => True)
      (fun s _ ids => ⟨s.delete channel ids, rfl, trivial, Memory.deleted_delete channel ids s⟩) trivial
  · intro σ _ held ready lawful s legible
    exact Shelves.deletes (fun _ legible ids => legible.deletes lawful ids) legible

/-- Two of the entries are equal, a third has their identifier and is in flight too. -/
def repeating : Listed ListServer where
  settings := {}
  server :=
    { data := ListClient.put "fluentstorage:inflight:jobs"
        (.hash (.ofList [(Utf8.encode "m3", Envelope.form { id := some "m3" }),
          (Utf8.encode "m1", Envelope.form letter)]))
        (Listed.stocked [Envelope.form letter, Envelope.form { id := some "m2" }, Envelope.form letter,
          Envelope.form { id := some "m1", received := 2 }]).data }

theorem delete_takes_named_repeating :
    repeating.Legible ListServer.data (fun _ => True) "jobs" ∧
      (Listed.shelves ListServer.data).Deletes (Listed.listing ListServer.data) listed "jobs" repeating ∧
      (Listed.delete "jobs" ["m1", "unknown", "m1"] repeating).2.waiting ListServer.data "jobs" =
        [Envelope.form { id := some "m2" }] ∧
      (Listed.delete "jobs" ["m1", "unknown", "m1"] repeating).2.flight ListServer.data "jobs" =
        .ofList [(Utf8.encode "m3", Envelope.form { id := some "m3" })] := by
  have read : ∀ raw ∈ repeating.waiting ListServer.data "jobs", ∃ m, Envelope.read raw = .ok m :=
    List.forall_mem_cons.mpr ⟨⟨_, rfl⟩, List.forall_mem_cons.mpr ⟨⟨_, rfl⟩, List.forall_mem_cons.mpr ⟨⟨_, rfl⟩,
      List.forall_mem_singleton.mpr ⟨_, rfl⟩⟩⟩⟩
  have legible : repeating.Legible ListServer.data (fun _ => True) "jobs" :=
    ⟨trivial, .inr ⟨_, rfl⟩, rfl, rfl, read⟩
  exact ⟨legible, (delete_takes_named "jobs").2 _ _ _ ListServer.lawful repeating legible, rfl, rfl⟩

end Depot.Messenger
