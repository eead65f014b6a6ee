import Depot.Dispatch.Bundled
import Depot.Proofs.Settings

namespace Depot.Dispatch

open ConnectionString Outcome

/-- Two answers of a module that differ in the backend at most. -/
inductive SameAnswer : Outcome (Option Backend) → Outcome (Option Backend) → Prop
  | backend (x y : Backend) : SameAnswer (.ok (some x)) (.ok (some y))
  | nothing : SameAnswer (.ok none) (.ok none)
  | failure (e : Failure) : SameAnswer (.error e) (.error e)

theorem SameAnswer.refl (x : Outcome (Option Backend)) : SameAnswer x x := by
  rcases x with e | _ | b
  · exact .failure e
  · exact .nothing
  · exact .backend b b

/-- Backends on settings that come about alike. -/
theorem sameAnswer_map {α : Type} {x y : Outcome α} (same : SameEnd x y) (backend : α → Backend) :
    SameAnswer (x.map fun settings => some (backend settings)) (y.map fun settings => some (backend settings)) := by
  cases same with
  | success a b => exact .backend (backend a) (backend b)
  | failure e => exact .failure e

/-- A module whose answers depend on secret values only in the backend and on which values are empty. -/
def Module.Discreet (m : Module) : Prop :=
  ∀ capability a b, Formed a → Formed b → Alike a b → SameGaps a b →
    SameAnswer (m.create capability a) (m.create capability b)

theorem memoryModule_discreet (serial : Nat) : (memoryModule serial).Discreet := by
  intro capability a b _ _ alike _
  simp only [memoryModule, alike.scheme]
  exact .refl _

theorem bucketModule_discreet (serial : Nat) : (bucketModule serial).Discreet := by
  intro capability a b first second alike gaps
  simp only [bucketModule, alike.scheme]
  split
  · exact sameAnswer_map (Settings.Bucket.sameEnd_ofConnectionString alike gaps first.folded second.folded) .bucket
  · exact .nothing

theorem listModule_discreet (serial : Nat) : (listModule serial).Discreet := by
  intro capability a b first second alike _
  simp only [listModule, alike.scheme]
  split
  · exact sameAnswer_map (Settings.Server.sameEnd_ofConnectionString alike first.folded second.folded)
      .listMessenger
  · exact .nothing

/-- Two resolutions that ask the same modules, write the same log and fail alike. -/
structure SameTrace (r s : Resolution) : Prop where
  answer : SameEnd r.answer s.answer
  asked : r.asked = s.asked
  log : r.log = s.log

theorem walk_sameTrace {a b : ConnectionString} (nobody : Failure) (capability : Capability)
    (shown : a.redacted = b.redacted) {candidates : List Module}
    (each : ∀ m ∈ candidates, SameAnswer (m.create capability a) (m.create capability b)) :
    SameTrace (walk nobody capability a candidates) (walk nobody capability b candidates) := by
  induction candidates with
  | nil => exact ⟨.failure nobody, rfl, rfl⟩
  | cons m rest ih =>
    obtain ⟨atHead, inTail⟩ := List.forall_mem_cons.mp each
    obtain ⟨answer, asked, log⟩ := ih inTail
    rw [walk, walk, shown]
    generalize m.create capability a = first at atHead ⊢
    generalize m.create capability b = second at atHead ⊢
    cases atHead with
    | backend x y => exact ⟨.success x y, rfl, rfl⟩
    | nothing => exact ⟨answer, congrArg (m.serial :: ·) asked, log⟩
    | failure e =>
      by_cases passed : passes e
      · simp only [if_pos passed, asked, log]
        exact ⟨answer, rfl, rfl⟩
      · simp only [if_neg passed]
        exact ⟨.failure e, rfl, rfl⟩

theorem Registry.resolve_sameTrace {r : Registry} (discreet : ∀ m ∈ r.modules, m.Discreet)
    (capability : Capability) {a b : ConnectionString} (first : Formed a) (second : Formed b)
    (alike : Alike a b) (gaps : SameGaps a b) :
    SameTrace (r.resolve capability a) (r.resolve capability b) := by
  rw [resolve, resolve, ← alike.scheme]
  refine walk_sameTrace _ capability (alike.redacted first.folded second.folded) fun m member => ?_
  exact discreet m (List.mem_of_mem_filter member) capability a b first second alike gaps

/-- Two connection strings that differ in secret values only are shown alike. If in addition the same secrets are
empty in both, they are resolved with the same log and, whenever it fails, the same failure. -/
theorem secrets_not_told {a b : ConnectionString} (first : Formed a) (second : Formed b) (alike : Alike a b) :
    a.redacted = b.redacted ∧ a.quoted = b.quoted ∧
      (SameGaps a b → ∀ capability,
        (defaultRegistry.resolve capability a).log = (defaultRegistry.resolve capability b).log ∧
          ∀ e, (defaultRegistry.resolve capability a).answer = .error e ↔
            (defaultRegistry.resolve capability b).answer = .error e) := by
  have redacted := alike.redacted first.folded second.folded
  refine ⟨redacted, by unfold ConnectionString.quoted; rw [redacted], fun gaps capability => ?_⟩
  have discreet : ∀ m ∈ defaultRegistry.modules, m.Discreet := by
    simp only [defaultRegistry, List.forall_mem_cons]
    exact ⟨memoryModule_discreet 0, bucketModule_discreet 1, listModule_discreet 2, List.forall_mem_nil _⟩
  have same := Registry.resolve_sameTrace discreet capability first second alike gaps
  exact ⟨same.log, same.answer.error_iff⟩

/-- A bucket that is given secrets, but no name for its key. -/
def unpaired (secrets : List (String × String)) (text : String) : ConnectionString :=
  ofParts "aws.s3" (("bucket", "b") :: secrets) none (some text)

/-- One of the secrets stands under a repeated key. The failure tells that there is a secret, the log neither of
them. -/
theorem secrets_not_told_unpaired :
    ∃ a b, ConnectionString.parse "aws.s3://bucket=b;KEY=;key=one" = .ok a ∧
      ConnectionString.parse "aws.s3://bucket=b;KEY=two" = .ok b ∧
      a.redacted = "aws.s3://bucket=b;KEY=***" ∧ b.redacted = a.redacted ∧
      (defaultRegistry.resolve .blobs a).answer =
        .error (.conflictingParameters ["keyId", "key"] "both must be present, or neither") ∧
      (defaultRegistry.resolve .blobs b).answer = (defaultRegistry.resolve .blobs a).answer ∧
      (defaultRegistry.resolve .blobs b).log = (defaultRegistry.resolve .blobs a).log := by
  have failed : (defaultRegistry.resolve .blobs
      (unpaired [("KEY", ""), ("key", "one")] "aws.s3://bucket=b;KEY=;key=one")).answer =
      .error (.conflictingParameters ["keyId", "key"] "both must be present, or neither") := by rfl
  have alike : Alike (unpaired [("KEY", ""), ("key", "one")] "aws.s3://bucket=b;KEY=;key=one")
      (unpaired [("KEY", "two")] "aws.s3://bucket=b;KEY=two") := ⟨rfl, rfl, by rfl, by decide⟩
  obtain ⟨redacted, -, told⟩ := secrets_not_told ⟨_, _, _, _, rfl⟩ ⟨_, _, _, _, rfl⟩ alike
  obtain ⟨log, fails⟩ := told (by unfold SameGaps; decide) .blobs
  exact ⟨_, _, by rfl, by rfl, by rfl, redacted.symm, failed, ((fails _).mp failed).trans failed.symm, log.symm⟩

end Depot.Dispatch
