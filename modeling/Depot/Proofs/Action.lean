import Depot.Action
import Mathlib.Tactic.Common

namespace Depot.Action

variable {σ τ α β : Type}

theorem bind_of_ok {act : Action σ α} {next : α → Action σ β} {s s' : σ} {a : α} (run : act s = (.ok a, s')) :
    (act >>= next) s = next a s' := by
  simp only [bind, run]

theorem bind_of_error {act : Action σ α} {next : α → Action σ β} {s s' : σ} {fault : Fault}
    (run : act s = (.error fault, s')) : (act >>= next) s = (.error fault, s') := by
  simp only [bind, run]

/-- What is made of the answer to a call does nothing to the state. -/
theorem bind_pure_snd (act : Action σ α) (f : α → β) (s : σ) :
    ((act >>= fun a => pure (f a)) s).2 = (act s).2 := by
  rcases run : act s with ⟨fault | a, later⟩
  · rw [bind_of_error run]
  · rw [bind_of_ok run]
    rfl

/-- A call that succeeds has succeeded in each of its steps. -/
theorem bind_eq_ok {act : Action σ α} {next : α → Action σ β} {s later : σ} {b : β}
    (run : (act >>= next) s = (.ok b, later)) :
    ∃ a middle, act s = (.ok a, middle) ∧ next a middle = (.ok b, later) := by
  rcases first : act s with ⟨fault | a, middle⟩
  · rw [bind_of_error first] at run
    cases run
  · rw [bind_of_ok first] at run
    exact ⟨a, middle, rfl, run⟩

/-- A call that begins by looking at the state. -/
theorem bind_state (next : σ → Action σ β) (s : σ) : (state >>= next) s = next s s := rfl

theorem onSuccess_of_ok {act : Action σ (Outcome α)} {next : α → Action σ (Outcome β)} {s s' : σ} {a : α}
    (run : act s = (.ok (.ok a), s')) : act.onSuccess next s = next a s' :=
  bind_of_ok run

theorem onSuccess_of_error {act : Action σ (Outcome α)} {next : α → Action σ (Outcome β)} {s s' : σ}
    {e : Failure} (run : act s = (.ok (.error e), s')) : act.onSuccess next s = (.ok (.error e), s') :=
  bind_of_ok run

theorem onSuccess_of_fault {act : Action σ (Outcome α)} {next : α → Action σ (Outcome β)} {s s' : σ}
    {fault : Fault} (run : act s = (.error fault, s')) : act.onSuccess next s = (.error fault, s') :=
  bind_of_error run

theorem recover_of_ok {act : Action σ α} {handler : Fault → Action σ α} {s s' : σ} {a : α}
    (run : act s = (.ok a, s')) : act.recover handler s = (.ok a, s') := by
  rw [recover, run]

theorem recover_of_fault {act : Action σ α} {handler : Fault → Action σ α} {s s' : σ} {fault : Fault}
    (run : act s = (.error fault, s')) : act.recover handler s = handler fault s' := by
  rw [recover, run]

theorem reporting_of_ok {report : Fault → Failure} {act : Action σ (Outcome α)} {s s' : σ} {result : Outcome α}
    (run : act s = (.ok result, s')) : act.reporting report s = (.ok result, s') :=
  recover_of_ok run

theorem reporting_of_fault {report : Fault → Failure} {act : Action σ (Outcome α)} {s s' : σ} {fault : Fault}
    (run : act s = (.error fault, s')) : act.reporting report s = (.ok (.error (report fault)), s') :=
  recover_of_fault run

/-- What is made of an answer can be made of it where it is given. -/
theorem onSuccess_map {γ : Type} (f : β → γ) (act : Action σ (Outcome α)) (next : α → Action σ (Outcome β)) :
    (do return (← act.onSuccess next).map f : Action σ (Outcome γ)) =
      act.onSuccess fun a => do return (← next a).map f := by
  funext s
  rcases run : act s with ⟨fault | e | a, later⟩
  · rw [onSuccess_of_fault run]
    exact bind_of_error (onSuccess_of_fault run)
  · rw [onSuccess_of_error run]
    exact bind_of_ok (onSuccess_of_error run)
  · rw [onSuccess_of_ok run]
    simp only [bind, onSuccess_of_ok run]

theorem onSuccess_eq_ok {act : Action σ (Outcome α)} {next : α → Action σ (Outcome β)} {s later : σ} {b : β}
    (run : act.onSuccess next s = (.ok (.ok b), later)) :
    ∃ a middle, act s = (.ok (.ok a), middle) ∧ next a middle = (.ok (.ok b), later) := by
  obtain ⟨answer, middle, first, second⟩ := bind_eq_ok run
  cases answer with
  | error e => cases second
  | ok a => exact ⟨a, middle, first, second⟩

theorem reporting_eq_ok {report : Fault → Failure} {act : Action σ (Outcome α)} {s later : σ} {a : α}
    (run : act.reporting report s = (.ok (.ok a), later)) : act s = (.ok (.ok a), later) := by
  rcases inner : act s with ⟨fault | answer, middle⟩
  · rw [reporting_of_fault inner] at run
    cases run
  · rw [reporting_of_ok inner] at run
    exact run

/-- Faults become failures, and what is answered besides is what was answered before. -/
theorem reporting_settles (report : Fault → Failure) {act : Action σ (Outcome α)} {s s' : σ}
    {result : Attempt (Outcome α)} (run : act s = (result, s')) :
    ∃ answer, act.reporting report s = (.ok answer, s') ∧ ∀ a, answer = .ok a ↔ result = .ok (.ok a) := by
  cases result with
  | error fault => exact ⟨_, reporting_of_fault run, fun a => by simp⟩
  | ok answer => exact ⟨answer, reporting_of_ok run, fun a => by simp⟩

theorem ofAttempt_apply (result : Attempt α) (s : σ) : ofAttempt result s = (result, s) := rfl

theorem zoom_apply {part : τ → σ} {put : σ → τ → τ} {act : Action σ α} {t : τ} {result : Attempt α} {s : σ}
    (run : act (part t) = (result, s)) : act.zoom part put t = (result, put s t) := by
  rw [zoom, run]

theorem zoom_eq_ok {part : τ → σ} {put : σ → τ → τ} {act : Action σ α} {t later : τ} {a : α}
    (run : act.zoom part put t = (.ok a, later)) : ∃ s, act (part t) = (.ok a, s) ∧ later = put s t := by
  obtain ⟨result, after⟩ := Prod.mk.injEq .. ▸ run
  exact ⟨(act (part t)).2, by rw [← result], after.symm⟩

theorem zoom_eq_ok_iff {part : τ → σ} {put : σ → τ → τ} {act : Action σ α} {t later : τ} {a : α} :
    act.zoom part put t = (.ok a, later) ↔ ∃ s, act (part t) = (.ok a, s) ∧ later = put s t := by
  refine ⟨zoom_eq_ok, ?_⟩
  rintro ⟨s, run, rfl⟩
  exact zoom_apply run

theorem runAll_cons {act : Action σ α} {s s' : σ} {result : Attempt α} (run : act s = (result, s'))
    (rest : List (Action σ α)) :
    runAll (act :: rest) s = (result :: (runAll rest s').1, (runAll rest s').2) := by
  rw [runAll, run]

theorem gather_apply (acts : List (Action σ α)) (s : σ) :
    gather acts s = ((runAll acts s).1.mapM id, (runAll acts s).2) := rfl

end Depot.Action
