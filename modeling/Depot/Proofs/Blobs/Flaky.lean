import Depot.Proofs.Blobs

namespace Depot

structure Flaky (τ : Type) where
  store : τ
  plan : Nat → Option Failure
  /-- How many operations have been performed. -/
  performed : Nat := 0

namespace Flaky

variable {τ α : Type}

/-- No operation performed so far has failed. -/
def Faultless (s : Flaky τ) : Prop := ∀ n < s.performed, s.plan n = none

def attempt (act : Action τ (Outcome α)) : Action (Flaky τ) (Outcome α) := fun s =>
  match s.plan s.performed with
  | some e => (.ok (.error e), { s with performed := s.performed + 1 })
  | none => ((act s.store).1, { s with store := (act s.store).2, performed := s.performed + 1 })

/-- An operation fails as planned, and is then no longer faultless, or it does what it is to do. -/
theorem attempt_cases (act : Action τ (Outcome α)) (s : Flaky τ) :
    (∃ e s', attempt act s = (.ok (.error e), s') ∧ s'.store = s.store ∧ ¬ s'.Faultless) ∨
      ∃ s', attempt act s = ((act s.store).1, s') ∧ s'.store = (act s.store).2 ∧
        (s'.Faultless → s.Faultless) := by
  unfold attempt
  cases planned : s.plan s.performed with
  | some e =>
    refine Or.inl ⟨e, _, rfl, rfl, fun faultless => ?_⟩
    have unplanned := faultless s.performed (Nat.lt_succ_self _)
    rw [planned] at unplanned
    cases unplanned
  | none => exact Or.inr ⟨_, rfl, rfl, fun faultless n below => faultless n (Nat.lt_succ_of_lt below)⟩

end Flaky

namespace Blobs

variable {τ : Type} {b : Blobs τ} {held : τ → String → Option Bytes}

/-- The store with failures by plan. -/
def flaky (b : Blobs τ) : Blobs (Flaky τ) where
  write key content := Flaky.attempt (b.write key content)
  read key := Flaky.attempt (b.read key)
  contains key := Flaky.attempt (b.contains key)
  delete keys := Flaky.attempt (b.delete keys)
  list start := Flaky.attempt (b.list start)
  close := b.close.zoom Flaky.store fun store s => { s with store }

theorem flaky_lawful (works : b.Works held) : b.flaky.Lawful (fun s => held s.store) Flaky.Faultless where
  write key data s := by
    rcases Flaky.attempt_cases (b.write key (.bytes data)) s with
      ⟨e, s', run, same, failed⟩ | ⟨s', run, same, before⟩
    · exact ⟨_, s', run, Or.inr ⟨⟨e, rfl⟩, by rw [same], failed⟩⟩
    · obtain ⟨t, done, kept⟩ := works.write key data s.store
      rw [done] at run same
      exact ⟨_, s', run, Or.inl ⟨rfl, by rw [same, kept], before⟩⟩
  read key s := by
    rcases Flaky.attempt_cases (b.read key) s with ⟨e, s', run, same, failed⟩ | ⟨s', run, same, before⟩
    · exact ⟨_, s', run, by rw [same], Or.inr ⟨⟨e, rfl⟩, fun now => absurd now failed⟩⟩
    · obtain ⟨result, t, done, kept, found | missing⟩ := Lawful.read works key s.store
      · rw [done] at run same
        exact ⟨_, s', run, by rw [same, kept], Or.inl ⟨found.1, before⟩⟩
      · rw [done] at run same
        refine ⟨_, s', run, by rw [same, kept], Or.inr ⟨missing.1, fun now => ?_⟩⟩
        exact ⟨before now, (missing.2 trivial).2⟩
  delete keys s := by
    rcases Flaky.attempt_cases (b.delete keys) s with ⟨e, s', run, same, failed⟩ | ⟨s', run, same, before⟩
    · exact ⟨_, s', run, Or.inr ⟨⟨e, rfl⟩, by rw [same], failed⟩⟩
    · obtain ⟨result, t, done, ⟨rfl, gone, -⟩ | ⟨-, -, failed⟩⟩ := Lawful.delete works keys s.store
      · rw [done] at run same
        exact ⟨_, s', run, Or.inl ⟨rfl, by rw [same, gone], before⟩⟩
      · exact absurd trivial failed

end Blobs
end Depot
