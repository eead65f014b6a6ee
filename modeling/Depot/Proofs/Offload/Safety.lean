import Depot.Proofs.Blobs.Flaky
import Depot.Proofs.Offload.Upkeep

namespace Depot.Offload

variable {τ : Type} {site : Site τ} {held : τ → String → Option Bytes} {faultless : τ → Prop}

/-- Every request keeps the books in order. -/
theorem InOrder.serve {start : Scope (Messenger.Memory × τ)} {s : Session τ}
    (order : InOrder site held faultless start s.scope [] s.delivered)
    (lawful : site.blobs.Lawful held faultless) {request : Request} (admissible : request.Admissible s) :
    InOrder site held faultless start (site.serve s request).scope [] (site.serve s request).delivered := by
  cases request with
  | put m => exact order.put lawful admissible
  | putAll messages => exact order.put_all lawful admissible
  | receive limit => exact order.receive lawful limit
  | confirm messages => exact order.confirm lawful admissible
  | deadLetter m reason description => exact order.dead_letter lawful admissible reason description

theorem Site.Reaches.inOrder (lawful : site.blobs.Lawful held faultless) {start now : Session τ}
    (opening : site.Opening start) (reached : site.Reaches start now) :
    InOrder site held faultless start.scope now.scope [] now.delivered := by
  induction reached with
  | start => exact opening.inOrder
  | serve _ admissible ih => exact ih.serve lawful admissible

/-- In every session that begins with an empty channel, while the names drawn are distinct and the keys among
them new to the store: each message that names a blob names one that is there and has the length stated; no two
messages name one blob; blobs under keys that were not drawn stay as they were; and as long as the store has
not failed, a blob is there exactly when it was there at the start or a message of the channel names it. -/
theorem Site.Reaches.blobs_match_messages (lawful : site.blobs.Lawful held faultless) {start now : Session τ}
    (opening : site.Opening start) (reached : site.Reaches start now)
    (ids_distinct : (start.queues.ids.since now.queues.ids).Nodup)
    (keys_distinct : (start.scope.keys.since now.scope.keys).Nodup)
    (keys_new : ∀ key ∈ start.scope.keys.since now.scope.keys, held start.store key = none) :
    (∀ channel, ∀ m ∈ now.queues.holding channel, ∀ key, blobKey? m = some key →
      ∃ data, held now.store key = some data ∧ m.properties.get? lengthHeader = some (toString data.length)) ∧
    ((now.queues.holding site.channel).filterMap blobKey?).Nodup ∧
    (∀ other, site.channel ≠ other → ∀ m ∈ now.queues.holding other, blobKey? m = none) ∧
    (∀ key ∉ start.scope.keys.since now.scope.keys, held now.store key = held start.store key) ∧
    (faultless now.store → ∀ key, held now.store key ≠ none ↔
      held start.store key ≠ none ∨ ∃ m ∈ now.queues.holding site.channel, blobKey? m = some key) := by
  have order := reached.inOrder lawful opening
  obtain ⟨sent, balanced⟩ := order.balanced ⟨ids_distinct, keys_distinct⟩
  have backed : ∀ m ∈ now.queues.holding site.channel, ∀ key, blobKey? m = some key →
      ∃ data, held now.store key = some data ∧
        m.properties.get? lengthHeader = some (toString data.length) := by
    intro m member key names
    obtain ⟨data, pointer, present⟩ := balanced.backed (Messenger.Memory.blind m)
      (List.mem_append_left _ (List.mem_map_of_mem member)) key names
    exact ⟨data, present, pointer.length⟩
  refine ⟨?_, ?_, order.others, balanced.untouched, ?_⟩
  · intro channel m member key names
    by_cases here : site.channel = channel
    · exact backed m (here ▸ member) key names
    · rw [order.others channel here m member] at names
      cases names
  · obtain ⟨l, same, within⟩ := balanced.part
    have once : (sent.filterMap blobKey?).Nodup := by
      have front := List.filterMap_append ▸ keys_distinct.sublist balanced.named
      exact front.sublist (List.sublist_append_left _ _)
    have kept := (same.filterMap blobKey?).nodup_iff.mp (once.sublist (within.filterMap _))
    rw [booksOf, List.filterMap_map] at kept
    exact kept
  · intro still key
    constructor
    · intro present
      by_cases drawn : key ∈ start.scope.keys.since now.scope.keys
      · obtain ⟨m, member, names⟩ := balanced.exact still key drawn present
        rcases List.mem_append.mp member with there | nowhere
        · obtain ⟨m', inside, rfl⟩ := List.mem_map.mp there
          exact Or.inr ⟨m', inside, names⟩
        · exact absurd nowhere List.not_mem_nil
      · exact Or.inl fun absent => present ((balanced.untouched key drawn).trans absent)
    · rintro (before | ⟨m, member, names⟩)
      · have kept : key ∉ start.scope.keys.since now.scope.keys := fun drawn => before (keys_new key drawn)
        exact fun absent => before ((balanced.untouched key kept).symm.trans absent)
      · obtain ⟨data, present, -⟩ := backed m member key names
        rw [present]
        exact Option.some_ne_none data

/-- A session over a store with one blob, whose second operation will fail. -/
def unsteady : Session (Flaky Store) where
  scope :=
    { inner := ({}, { store := { entries := .ofList [("old", [7])] }
                      plan := fun n => if n = 1 then some (.writeFailed "b" none) else none })
      keys := ⟨fun n => ["a", "b", "c", "d"].getD n "", 0⟩ }

def tray : Site (Flaky Store) := ⟨Blobs.memory.flaky, "jobs", 2, true⟩

/-- After a batch that fails at its second blob, a batch that goes out, and one message received and
confirmed. -/
def unsteadyAfter : Session (Flaky Store) :=
  let failed := tray.serve unsteady (.putAll [{ content := [1, 2, 3] }, { content := [4, 5, 6] }])
  let sent := tray.serve failed
    (.putAll [{ content := [1, 2, 3] }, { content := [1] }, { content := [1, 2, 3, 4] }])
  let received := tray.serve sent (.receive 1)
  tray.serve received (.confirm received.delivered)

theorem Site.Reaches.blobs_match_messages_unsteady :
    ¬ unsteadyAfter.store.Faultless ∧
      (unsteadyAfter.queues.holding "jobs").filterMap blobKey? = ["d"] ∧
      unsteadyAfter.store.store.read? "d" = some [1, 2, 3, 4] ∧
      (∀ m ∈ unsteadyAfter.queues.holding "jobs", ∀ key, blobKey? m = some key →
        ∃ data, unsteadyAfter.store.store.read? key = some data ∧
          m.properties.get? lengthHeader = some (toString data.length)) ∧
      (∀ key ∉ ["a", "b", "c", "d"], unsteadyAfter.store.store.read? key = unsteady.store.store.read? key) := by
  have opening : tray.Opening unsteady := by
    refine ⟨rfl, fun channel m member => absurd member List.not_mem_nil, ?_, rfl⟩
    intro channel held found
    cases found
  have begun : tray.Reaches unsteady unsteady := .start
  have failed := begun.serve (show Request.Admissible unsteady
    (.putAll [{ content := [1, 2, 3] }, { content := [4, 5, 6] }]) by simp [Request.Admissible, New])
  have sent := failed.serve (show Request.Admissible _
    (.putAll [{ content := [1, 2, 3] }, { content := [1] }, { content := [1, 2, 3, 4] }])
    by simp [Request.Admissible, New])
  have received := sent.serve (show Request.Admissible _ (.receive 1) from trivial)
  have reached : tray.Reaches unsteady unsteadyAfter :=
    received.serve (show Request.Admissible _ (.confirm _) from fun m member => member)
  have keys : unsteady.scope.keys.since unsteadyAfter.scope.keys = ["a", "b", "c", "d"] := by rfl
  obtain ⟨backed, -, -, untouched, -⟩ := Site.Reaches.blobs_match_messages
    (Blobs.flaky_lawful Blobs.memory_works) opening reached (by decide) (keys ▸ by decide) (keys ▸ by decide)
  refine ⟨?_, by rfl, by rfl, backed "jobs", keys ▸ untouched⟩
  intro faultless
  have second := faultless 1 (by decide)
  cases second

end Depot.Offload
