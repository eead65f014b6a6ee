import Depot.Messenger.Listed
import Depot.Messenger.Memory
import Depot.Proofs.Message.Envelope
import Depot.Proofs.Outcome

namespace Depot.Messenger.Listed

variable {ids : List String} {raws : List Bytes} {queue : List Message}

/-- Whether an entry is a message that is among those named. -/
def isNamed (ids : List String) (raw : Bytes) : Bool := (Envelope.read raw).toOption.any (Memory.isNamed ids)

theorem isNamed_of_read {raw : Bytes} {m : Message} (read : Envelope.read raw = .ok m) :
    isNamed ids raw = Memory.isNamed ids m := by
  rw [isNamed, read]
  rfl

theorem isNamed_form {m : Message} (fits : Envelope.Fits m) :
    isNamed ids (Envelope.form m) = Memory.isNamed ids m :=
  (isNamed_of_read (Envelope.read_form fits)).trans rfl

/-- Where all entries are messages, those are found that are named. -/
theorem named_of_read (read : ∀ raw ∈ raws, ∃ m, Envelope.read raw = .ok m) :
    named ids raws = .ok (raws.filter (isNamed ids)) := by
  let idOf (raw : Bytes) : Option String := (Envelope.read raw).toOption.bind Message.id
  have each : ∀ raw ∈ raws,
      (do return (raw, (← Envelope.read raw).id) : Attempt (Bytes × Option String)) = .ok (raw, idOf raw) := by
    intro raw member
    obtain ⟨m, form⟩ := read raw member
    simp only [idOf, form]
    rfl
  have told (raw : Bytes) : ((idOf raw).map ids.contains).getD false = isNamed ids raw := by
    unfold idOf isNamed
    cases Envelope.read raw <;> rfl
  rw [named, Outcome.mapM_of_forall_mem each]
  refine congrArg Except.ok ?_
  rw [List.filter_map, List.map_map]
  exact (List.map_id _).trans (List.filter_congr fun raw _ => told raw)

theorem named_eq_ok {doomed : List Bytes} (found : named ids raws = .ok doomed) :
    doomed = raws.filter (isNamed ids) := by
  obtain ⟨pairs, each, -⟩ := Outcome.bind_eq_ok_iff.mp found
  have read : ∀ raw ∈ raws, ∃ m, Envelope.read raw = .ok m := by
    intro raw member
    obtain ⟨pair, -, run⟩ := Outcome.exists_of_mapM_eq_ok each member
    obtain ⟨m, form, -⟩ := Outcome.bind_eq_ok_iff.mp run
    exact ⟨m, form⟩
  exact Except.ok.inj (found.symm.trans (named_of_read read))

/-- To remove the first equal item for each that is doomed is to remove the doomed. -/
theorem diff_filter (p : Bytes → Bool) (raws : List Bytes) :
    raws.diff (raws.filter p) = raws.filter fun raw => !p raw := by
  induction raws with
  | nil => rfl
  | cons raw rest ih =>
    cases doomed : p raw with
    | true =>
      rw [List.filter_cons_of_pos doomed, List.filter_cons_of_neg (by rw [doomed]; decide), List.diff_cons,
        List.erase_cons_head, ih]
    | false =>
      -- An entry that stays is equal to none that goes.
      have apart : raw ∉ rest.filter p := by
        intro member
        have gone := (List.mem_filter.mp member).2
        rw [doomed] at gone
        cases gone
      rw [List.filter_cons_of_neg (by rw [doomed]; decide), List.filter_cons_of_pos (by rw [doomed]; rfl),
        List.cons_diff_of_not_mem apart, ih]

theorem filter_forms {p : Bytes → Bool} {q : Message → Bool} (same : ∀ m ∈ queue, p (Envelope.form m) = q m) :
    (queue.map Envelope.form).filter p = (queue.filter q).map Envelope.form := by
  rw [List.filter_map]
  exact congrArg _ (List.filter_congr same)

end Depot.Messenger.Listed
