import Depot.Proofs.ConnectionString.Secrets
import Mathlib.Data.Finset.Dedup

namespace Depot.ConnectionString

theorem get?_eq_foldedValues (cs : ConnectionString) (key : String) :
    cs.get? key = cs.foldedValues.get? (Text.lower key) :=
  (Table.get?_map _ _ _).symm

theorem equals_iff {a b : ConnectionString} :
    a.equals b ↔ a.scheme = b.scheme ∧ a.native = b.native ∧
      ∀ fold, a.foldedValues.get? fold = b.foldedValues.get? fold := by
  simp only [equals, Bool.and_eq_true, decide_eq_true_eq, Table.agrees_iff, and_assoc]

theorem equivalence_equals : Equivalence fun a b : ConnectionString => (a.equals b : Prop) where
  refl a := equals_iff.mpr ⟨rfl, rfl, fun _ => rfl⟩
  symm same := by
    obtain ⟨scheme, native, values⟩ := equals_iff.mp same
    exact equals_iff.mpr ⟨scheme.symm, native.symm, fun fold => (values fold).symm⟩
  trans left right := by
    obtain ⟨scheme, native, values⟩ := equals_iff.mp left
    obtain ⟨scheme', native', values'⟩ := equals_iff.mp right
    exact equals_iff.mpr ⟨scheme.trans scheme', native.trans native', fun fold => (values fold).trans (values' fold)⟩

/-- Two connection strings of one scheme that give the same answer under every key. -/
structure SameAnswers (a b : ConnectionString) : Prop where
  scheme : a.scheme = b.scheme
  native : a.native = b.native
  values : ∀ key, a.get? key = b.get? key

theorem SameAnswers.of_equals {a b : ConnectionString} (same : a.equals b) : SameAnswers a b := by
  obtain ⟨scheme, native, values⟩ := equals_iff.mp same
  refine ⟨scheme, native, fun key => ?_⟩
  rw [get?_eq_foldedValues, get?_eq_foldedValues, values]

/-- What is found under a folded key is found under the key as it is spelled. -/
theorem get?_foldedValues_of_mem {cs : ConnectionString} (folded : Folded cs.folded) {fold value : String}
    (found : cs.foldedValues.get? fold = some value) : ∃ key ∈ cs.keys, Text.lower key = fold := by
  rw [foldedValues, Table.get?_map, Option.map_eq_some_iff] at found
  obtain ⟨parameter, found, -⟩ := found
  have known : fold ∈ cs.folded.keys := Table.mem_keys.mpr ⟨parameter, Table.get?_eq_some_iff.mp found⟩
  rw [keys_folded folded] at known
  exact List.mem_map.mp known

/-- It is enough to ask for the keys that stand in one of the two. -/
theorem equals_of_answers {a b : ConnectionString} (first : Folded a.folded) (second : Folded b.folded)
    (scheme : a.scheme = b.scheme) (native : a.native = b.native)
    (values : ∀ key, key ∈ a.keys ∨ key ∈ b.keys → a.get? key = b.get? key) : a.equals b := by
  refine equals_iff.mpr ⟨scheme, native, fun fold => ?_⟩
  have asked {key : String} (known : key ∈ a.keys ∨ key ∈ b.keys) :
      a.foldedValues.get? (Text.lower key) = b.foldedValues.get? (Text.lower key) := by
    rw [← get?_eq_foldedValues, ← get?_eq_foldedValues, values key known]
  cases left : a.foldedValues.get? fold with
  | some value =>
    obtain ⟨key, known, rfl⟩ := get?_foldedValues_of_mem first left
    rw [← left, asked (Or.inl known)]
  | none =>
    cases right : b.foldedValues.get? fold with
    | none => rfl
    | some value =>
      obtain ⟨key, known, rfl⟩ := get?_foldedValues_of_mem second right
      rw [← left, ← right, asked (Or.inr known)]

/-- The scheme, the native text and the set of values under folded keys. -/
def digest (cs : ConnectionString) : String × Option String × Finset (String × String) :=
  (cs.scheme, cs.native, cs.foldedValues.entries.toFinset)

theorem digest_eq_iff {a b : ConnectionString} : a.digest = b.digest ↔ a.equals b := by
  have values : a.foldedValues.entries.toFinset = b.foldedValues.entries.toFinset ↔
      ∀ fold, a.foldedValues.get? fold = b.foldedValues.get? fold := by
    rw [Finset.ext_iff, Prod.forall]
    refine forall_congr' fun fold => ?_
    rw [Option.ext_iff]
    refine forall_congr' fun value => ?_
    rw [List.mem_toFinset, List.mem_toFinset, Table.get?_eq_some_iff, Table.get?_eq_some_iff]
  rw [digest, digest, Prod.mk.injEq, Prod.mk.injEq, values, equals_iff]

end Depot.ConnectionString
