import Depot.Proofs.Clients.Holder

namespace Depot

/-- A service with notes of what has been done with its clients. -/
structure Watched (σ : Type) where
  service : σ
  deeds : List Deed := []

namespace Watched

variable {σ α : Type}

def note (deed : Deed) : Action (Watched σ) Unit := .update fun s => { s with deeds := s.deeds ++ [deed] }

def onService (act : Action σ α) : Action (Watched σ) α :=
  act.zoom Watched.service fun service s => { s with service }

/-- What has been done once the call succeeds. -/
def achieving (deed : Deed) (act : Action σ α) : Action (Watched σ) α := do
  let a ← onService act
  note deed
  return a

/-- A request, whatever becomes of it. -/
def asking (act : Action σ α) : Action (Watched σ) α := do
  note .asked
  onService act

variable {deed : Deed} {act : Action σ α} {s later : Watched σ} {service : σ} {a : α} {fault : Fault}

theorem achieving_of_ok (run : act s.service = (.ok a, service)) :
    achieving deed act s = (.ok a, { service, deeds := s.deeds ++ [deed] }) :=
  (Action.bind_of_ok (Action.zoom_apply run)).trans rfl

theorem achieving_of_fault (run : act s.service = (.error fault, service)) :
    achieving deed act s = (.error fault, { s with service }) :=
  Action.bind_of_error (Action.zoom_apply run)

/-- What has been achieved is noted. -/
theorem achieving_eq_ok (act : Action σ α) (run : achieving deed act s = (.ok a, later)) :
    ∃ service, act s.service = (.ok a, service) ∧ later = { service, deeds := s.deeds ++ [deed] } := by
  rcases inner : act s.service with ⟨fault | b, service⟩
  · cases (achieving_of_fault inner).symm.trans run
  · cases (achieving_of_ok inner).symm.trans run
    exact ⟨service, rfl, rfl⟩

theorem achieving_eq_error (act : Action σ α) (run : achieving deed act s = (.error fault, later)) :
    ∃ service, act s.service = (.error fault, service) ∧ later = { s with service } := by
  rcases inner : act s.service with ⟨other | b, service⟩
  · cases (achieving_of_fault inner).symm.trans run
    exact ⟨service, rfl, rfl⟩
  · cases (achieving_of_ok inner).symm.trans run

theorem asking_apply (act : Action σ α) (s : Watched σ) :
    asking act s = ((act s.service).1, { service := (act s.service).2, deeds := s.deeds ++ [.asked] }) := rfl

/-- The service has been asked, and nothing else has been done with its clients. -/
def Asked (s later : Watched σ) : Prop := ∃ deeds, later.deeds = s.deeds ++ deeds ∧ ∀ d ∈ deeds, d = Deed.asked

instance : Std.Refl (Asked (σ := σ)) where
  refl _ := ⟨[], (List.append_nil _).symm, nofun⟩

instance : IsTrans (Watched σ) Asked where
  trans s middle later first second := by
    obtain ⟨deeds, grown, only⟩ := first
    obtain ⟨deeds', grown', only'⟩ := second
    refine ⟨deeds ++ deeds', ?_, List.forall_mem_append.mpr ⟨only, only'⟩⟩
    rw [grown', grown, List.append_assoc]

theorem asked_asking (act : Action σ α) (s : Watched σ) : Asked s (asking act s).2 :=
  ⟨[.asked], rfl, List.forall_mem_singleton.mpr rfl⟩

end Watched
end Depot
