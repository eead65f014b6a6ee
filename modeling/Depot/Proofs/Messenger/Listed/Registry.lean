import Depot.Messenger.Listed
import Depot.Proofs.Action
import Depot.Proofs.Outcome
import Depot.Proofs.Text.Utf8

namespace Depot.Messenger.Listed

theorem nameOf_encode (name : String) : nameOf (Utf8.encode name) = .ok name := by
  rw [nameOf, Utf8.decode, Utf8.decode?_encode]
  rfl

theorem mapM_nameOf (names : List String) : (names.map Utf8.encode).mapM nameOf = .ok names := by
  have each : ∀ name ∈ names, (nameOf ∘ Utf8.encode) name = .ok (id name) := fun name _ => nameOf_encode name
  rw [List.mapM_map]
  exact (Outcome.mapM_of_forall_mem each).trans (by rw [List.map_id])

/-- Names are read from the members of a set in whatever order they are told. -/
theorem exists_names_of_perm {told : List Bytes} {names : List String} (perm : told.Perm (names.map Utf8.encode)) :
    ∃ found, told.mapM nameOf = .ok found ∧ found.Perm names := by
  let tell (raw : Bytes) : String := (nameOf raw).toOption.getD ""
  have tell_encode (name : String) : tell (Utf8.encode name) = name := by
    simp only [tell, nameOf_encode]
    rfl
  have each : ∀ raw ∈ told, nameOf raw = .ok (tell raw) := by
    intro raw member
    obtain ⟨name, -, rfl⟩ := List.mem_map.mp (perm.mem_iff.mp member)
    rw [nameOf_encode, tell_encode]
  have same := perm.map tell
  rw [List.map_map, List.map_congr_left fun name _ => show (tell ∘ Utf8.encode) name = id name from tell_encode name,
    List.map_id] at same
  exact ⟨told.map tell, Outcome.mapM_of_forall_mem each, same⟩

theorem mergeSort_eq_of_perm {names found : List String} (perm : found.Perm names) :
    (found.mergeSort fun a b => a ≤ b) = names.mergeSort fun a b => a ≤ b := by
  have sorted (l : List String) : (l.mergeSort fun a b => a ≤ b).Pairwise fun a b => a ≤ b := by
    have trans (a b c : String) : decide (a ≤ b) = true → decide (b ≤ c) = true → decide (a ≤ c) = true := by
      simpa using String.le_trans
    have total (a b : String) : (decide (a ≤ b) || decide (b ≤ a)) = true := by simpa using String.le_total a b
    simpa using List.pairwise_mergeSort trans total l
  refine List.Perm.eq_of_pairwise (fun a b _ _ => String.le_antisymm) (sorted _) (sorted _) ?_
  exact (List.mergeSort_perm ..).trans (perm.trans (List.mergeSort_perm ..).symm)

variable {σ : Type} [ListClient σ] {key : String} {s later : Listed σ}

/-- How the channels are listed of which a set has the names. -/
def enumerate (key : String) : Action (Listed σ) (Outcome (List String)) := do
  let members ← onServer (ListClient.members key)
  let names ← .ofAttempt (members.mapM nameOf)
  return .ok (names.mergeSort fun a b => a ≤ b)

theorem enumerate_of_fault {fault : Fault} (asked : onServer (ListClient.members key) s = (.error fault, later)) :
    enumerate key s = (.error fault, later) := Action.bind_of_error asked

theorem enumerate_of_told {told : List Bytes} (asked : onServer (ListClient.members key) s = (.ok told, later)) :
    enumerate key s = ((told.mapM nameOf).map fun names => .ok (names.mergeSort fun a b => a ≤ b), later) :=
  (Action.bind_of_ok asked).trans (by cases told.mapM nameOf <;> rfl)

/-- The members are listed in ascending order, in whatever order they are told. -/
theorem enumerate_of_names {told : List Bytes} (asked : onServer (ListClient.members key) s = (.ok told, later))
    {names : List String} (perm : told.Perm (names.map Utf8.encode)) :
    enumerate key s = (.ok (.ok (names.mergeSort fun a b => a ≤ b)), later) := by
  obtain ⟨found, read, same⟩ := exists_names_of_perm perm
  rw [enumerate_of_told asked, read, ← mergeSort_eq_of_perm same]
  rfl

end Depot.Messenger.Listed
