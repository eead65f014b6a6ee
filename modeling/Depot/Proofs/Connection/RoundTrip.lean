import Depot.Proofs.Connection.Parts

namespace Depot.Connection

theorem read_write_native {scheme : String} {pairs : List (String × String)}
    (nonempty : scheme ≠ "") (clear : ¬ separator <:+: scheme.toList)
    (marked : nativeMarker <+: writtenBody pairs) :
    ∃ raw, Parts.read (write scheme pairs none) = .ok ⟨scheme, [(nativeKey, raw)], some raw⟩ := by
  obtain ⟨raw, body⟩ := marked
  have split : splitScheme? (write scheme pairs none).toList = some (scheme.toList, nativeMarker ++ raw) := by
    rw [toList_write, ← body, splitScheme?_append clear]
  have some_char : scheme.toList ≠ [] := by simpa using nonempty
  rw [read_native some_char split, String.ofList_toList]
  exact ⟨_, rfl⟩

theorem read_write_parameters {scheme : String} {pairs : List (String × String)}
    (nonempty : scheme ≠ "") (clear : ¬ separator <:+: scheme.toList)
    (valid : ∀ pair ∈ pairs, isKey pair.1) (unmarked : ¬ nativeMarker <+: writtenBody pairs) :
    Parts.read (write scheme pairs none) = .ok ⟨scheme, pairs, none⟩ := by
  have split := splitScheme?_append clear (writtenBody pairs)
  rw [← toList_write] at split
  have some_char : scheme.toList ≠ [] := by simpa using nonempty
  rw [read_parameters some_char split unmarked, readSegments_writtenBody valid,
    String.ofList_toList]
  rfl

/-- A list of parameters is read back as it was written, with every repetition and whatever its values
hold, exactly when its scheme is a scheme, its keys are keys, and it does not begin with the key that
marks a service's own form. -/
theorem read_write_iff (scheme : String) (pairs : List (String × String)) :
    Parts.read (write scheme pairs none) = .ok ⟨scheme, pairs, none⟩ ↔
      scheme ≠ "" ∧ ¬ separator <:+: scheme.toList ∧ (∀ pair ∈ pairs, isKey pair.1) ∧
        ∀ pair, pairs.head? = some pair → pair.1 ≠ nativeKey := by
  constructor
  · intro accepted
    obtain ⟨nonempty, clear, valid⟩ := valid_of_read accepted rfl
    refine ⟨nonempty, clear, valid, fun pair first native => ?_⟩
    have marked := (nativeMarker_prefix_writtenBody valid).mpr ⟨pair, first, native⟩
    obtain ⟨raw, own⟩ := read_write_native nonempty clear marked
    rw [accepted] at own
    cases own
  · rintro ⟨nonempty, clear, valid, first⟩
    refine read_write_parameters nonempty clear valid fun marked => ?_
    obtain ⟨pair, atHead, native⟩ := (nativeMarker_prefix_writtenBody valid).mp marked
    exact first pair atHead native

end Depot.Connection
