import Depot.Proofs.Offload.Pairing

namespace Depot.Offload

/-- The key of the blob that a message names. -/
def blobKey? (m : Message) : Option String := m.properties.get? contentHeader

/-- A message names a blob and states the length of its content. -/
structure Names (m : Message) (key : String) (data : Bytes) : Prop where
  key : blobKey? m = some key
  length : m.properties.get? lengthHeader = some (toString data.length)

theorem blobKey?_congr {m m' : Message} (same : m.properties = m'.properties) : blobKey? m = blobKey? m' :=
  congrArg (Table.get? · contentHeader) same

theorem Names.congr {m m' : Message} {key : String} {data : Bytes} (names : Names m key data)
    (same : m.properties = m'.properties) : Names m' key data :=
  ⟨(blobKey?_congr same).symm.trans names.key, same ▸ names.length⟩

namespace Sender

theorem pointer_names (m : Message) (key : String) : Names (pointer m key) key m.content where
  key := by
    have other : lengthHeader ≠ contentHeader := by decide
    simp only [blobKey?, pointer, Message.withProperty, Table.get?_put, if_neg other, if_true]
  length := by simp only [pointer, Message.withProperty, Table.get?_put, if_true]

theorem blobKey?_whole (m : Message) : blobKey? (whole m) = none := by
  unfold whole
  split
  · simp [blobKey?, Message.withoutProperties, Table.get?_eraseAll, reserved]
  · rename_i inline
    rw [refersToBlob, Table.contains_eq_isSome, Option.isSome_iff_ne_none, not_not] at inline
    exact inline

variable {σ τ : Type} {b : Blobs τ} {held : τ → String → Option Bytes} {faultless : τ → Prop}

theorem pack_small (sender : Sender σ) {m : Message} (small : m.content.length ≤ sender.limit)
    (scope : Scope σ) : sender.pack m scope = (.ok (.ok (whole m, none)), scope) := by
  rw [pack, if_pos small]
  rfl

theorem pack_cases (lawful : b.Lawful held faultless) (sender : Sender (σ × τ))
    (stores : sender.blobs = b.paired) (m : Message) (scope : Scope (σ × τ)) :
    (m.content.length ≤ sender.limit ∧ sender.pack m scope = (.ok (.ok (whole m, none)), scope)) ∨
    (¬ m.content.length ≤ sender.limit ∧ ∃ later : Scope (σ × τ),
      sender.pack m scope = (.ok (.ok (pointer m scope.keys.next, some scope.keys.next)), later) ∧
        later.inner.1 = scope.inner.1 ∧ later.keys = scope.keys.advance ∧
        held later.inner.2 = Function.update (held scope.inner.2) scope.keys.next (some m.content) ∧
        (faultless later.inner.2 → faultless scope.inner.2)) ∨
    (¬ m.content.length ≤ sender.limit ∧ ∃ (e : Failure) (later : Scope (σ × τ)),
      sender.pack m scope =
          (.ok (.error (.offloadWriteFailed scope.keys.next (some (.reported e)))), later) ∧
        later.inner.1 = scope.inner.1 ∧ later.keys = scope.keys.advance ∧
        held later.inner.2 = held scope.inner.2 ∧ ¬ faultless later.inner.2) := by
  by_cases small : m.content.length ≤ sender.limit
  · exact Or.inl ⟨small, sender.pack_small small scope⟩
  · unfold pack
    simp only [if_neg small, stores]
    rw [Action.bind_of_ok (Scope.drawKey_apply scope)]
    obtain ⟨result, t, run, effect⟩ := lawful.write scope.keys.next m.content scope.inner.2
    have written : Scope.within (b.paired.write scope.keys.next (.bytes m.content))
        { scope with keys := scope.keys.advance } =
        (.ok result, { scope with keys := scope.keys.advance }.withStore t) := by
      exact Scope.within_store run
    rw [Action.bind_of_ok written]
    rcases effect with ⟨rfl, kept, before⟩ | ⟨⟨e, rfl⟩, same, failed⟩
    · exact Or.inr (Or.inl ⟨small, _, rfl, rfl, rfl, kept, before⟩)
    · exact Or.inr (Or.inr ⟨small, e, _, rfl, rfl, rfl, same, failed⟩)

/-- Blobs are to be cleaned up, and the store removes these. -/
def Cleans (sender : Sender (σ × τ)) (b : Blobs τ) (keys : List String) (t : τ) : Prop :=
  sender.cleanUp ∧ (b.delete keys t).1 = .ok (.ok ())

theorem discard_cases (lawful : b.Lawful held faultless) (sender : Sender (σ × τ))
    (stores : sender.blobs = b.paired) (keys : List String) (scope : Scope (σ × τ)) :
    ∃ later : Scope (σ × τ), sender.discard keys scope = (.ok (), later) ∧
      later.inner.1 = scope.inner.1 ∧ later.keys = scope.keys ∧
      (faultless later.inner.2 → faultless scope.inner.2) ∧
      (¬ sender.Cleans b keys scope.inner.2 ∧ held later.inner.2 = held scope.inner.2 ∨
        sender.Cleans b keys scope.inner.2 ∧
          held later.inner.2 = withoutKeys (held scope.inner.2) keys) := by
  unfold discard
  by_cases none_given : keys.isEmpty
  · rw [List.isEmpty_iff] at none_given
    subst none_given
    refine ⟨scope, rfl, rfl, rfl, id, ?_⟩
    rw [withoutKeys_nil, ← or_and_right]
    exact ⟨(em _).symm, rfl⟩
  by_cases left : sender.cleanUp
  · simp only [if_neg none_given, left, Bool.not_true, Bool.false_eq_true, if_false, stores]
    obtain ⟨result, t, run, effect⟩ := lawful.delete keys scope.inner.2
    have deleted : Scope.within (b.paired.delete keys) scope = (.ok result, scope.withStore t) := by
      exact Scope.within_store run
    rcases effect with ⟨rfl, gone, before⟩ | ⟨⟨e, rfl⟩, same, failed⟩
    · exact ⟨_, Action.bind_of_ok deleted, rfl, rfl, before, Or.inr ⟨⟨left, by rw [run]⟩, gone⟩⟩
    · have kept : ¬ sender.Cleans b keys scope.inner.2 := by
        rintro ⟨-, removed⟩
        rw [run] at removed
        cases removed
      exact ⟨_, Action.bind_of_ok deleted, rfl, rfl, fun now => absurd now failed, Or.inl ⟨kept, same⟩⟩
  · simp only [if_neg none_given, left, Bool.not_false, if_true]
    exact ⟨_, rfl, rfl, rfl, id, Or.inl ⟨fun cleans => left cleans.1, rfl⟩⟩

end Sender
end Depot.Offload
