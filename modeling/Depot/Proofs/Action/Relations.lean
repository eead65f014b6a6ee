import Depot.Proofs.Action
import Mathlib.Order.Defs.Unbundled

namespace Depot.Action

variable {σ τ α β : Type}

/-- The state that a call leaves is related to the one that it finds. -/
def Along (R : σ → σ → Prop) (act : Action σ α) : Prop := ∀ s, R s (act s).2

/-- From states that are alike, two calls end in the same way and in states that are alike. -/
def Agree (E : σ → τ → Prop) (act : Action σ α) (act' : Action τ α) : Prop :=
  ∀ s t, E s t → (act s).1 = (act' t).1 ∧ E (act s).2 (act' t).2

/-- A call does not tell states from each other that are alike. -/
abbrev Even (E : σ → σ → Prop) (act : Action σ α) : Prop := Agree E act act

namespace Along

variable {R : σ → σ → Prop}

theorem still [Std.Refl R] {act : Action σ α} (same : ∀ s, (act s).2 = s) : Along R act := by
  intro s
  rw [same]
  exact refl s

variable [IsTrans σ R]

theorem bind {act : Action σ α} {next : α → Action σ β} (first : Along R act)
    (second : ∀ a, Along R (next a)) : Along R (act >>= next) := by
  intro s
  have before := first s
  rcases run : act s with ⟨a | a, middle⟩ <;> rw [run] at before
  · rw [bind_of_error run]
    exact before
  · rw [bind_of_ok run]
    exact IsTrans.trans _ _ _ before (second a middle)

theorem recover {act : Action σ α} {handler : Fault → Action σ α} (first : Along R act)
    (second : ∀ fault, Along R (handler fault)) : Along R (act.recover handler) := by
  intro s
  have before := first s
  rcases run : act s with ⟨fault | a, middle⟩ <;> rw [run] at before
  · rw [recover_of_fault run]
    exact IsTrans.trans _ _ _ before (second fault middle)
  · rw [recover_of_ok run]
    exact before

variable [Std.Refl R]

theorem onSuccess {act : Action σ (Outcome α)} {next : α → Action σ (Outcome β)} (first : Along R act)
    (second : ∀ a, Along R (next a)) : Along R (act.onSuccess next) := by
  refine first.bind fun answer => ?_
  cases answer with
  | ok a => exact second a
  | error e => exact still fun _ => rfl

end Along

namespace Agree

variable {E : σ → τ → Prop}

/-- Calls that leave their states as they are, and do not look at them. -/
theorem still {act : Action σ α} {act' : Action τ α} (result : Attempt α) (same : ∀ s, act s = (result, s))
    (same' : ∀ t, act' t = (result, t)) : Agree E act act' := by
  intro s t alike
  rw [same, same']
  exact ⟨rfl, alike⟩

/-- Calls that begin by looking at their states. -/
theorem state {next : σ → Action σ α} {next' : τ → Action τ α}
    (each : ∀ s t, E s t → Agree E (next s) (next' t)) :
    Agree E (Action.state >>= next) (Action.state >>= next') :=
  fun s t alike => each s t alike s t alike

theorem bind {act : Action σ α} {act' : Action τ α} {next : α → Action σ β} {next' : α → Action τ β}
    (first : Agree E act act') (second : ∀ a, Agree E (next a) (next' a)) :
    Agree E (act >>= next) (act' >>= next') := by
  intro s t alike
  obtain ⟨same, after⟩ := first s t alike
  rcases left : act s with ⟨fault | a, s'⟩ <;> rcases right : act' t with ⟨fault' | a', t'⟩ <;>
    rw [left, right] at same after <;> cases same
  · rw [bind_of_error left, bind_of_error right]
    exact ⟨rfl, after⟩
  · rw [bind_of_ok left, bind_of_ok right]
    exact second a s' t' after

theorem recover {act : Action σ α} {act' : Action τ α} {handler : Fault → Action σ α}
    {handler' : Fault → Action τ α} (first : Agree E act act')
    (second : ∀ fault, Agree E (handler fault) (handler' fault)) :
    Agree E (act.recover handler) (act'.recover handler') := by
  intro s t alike
  obtain ⟨same, after⟩ := first s t alike
  rcases left : act s with ⟨fault | a, s'⟩ <;> rcases right : act' t with ⟨fault' | a', t'⟩ <;>
    rw [left, right] at same after <;> cases same
  · rw [recover_of_fault left, recover_of_fault right]
    exact second fault s' t' after
  · rw [recover_of_ok left, recover_of_ok right]
    exact ⟨rfl, after⟩

theorem onSuccess {act : Action σ (Outcome α)} {act' : Action τ (Outcome α)}
    {next : α → Action σ (Outcome β)} {next' : α → Action τ (Outcome β)} (first : Agree E act act')
    (second : ∀ a, Agree E (next a) (next' a)) : Agree E (act.onSuccess next) (act'.onSuccess next') := by
  refine first.bind fun answer => ?_
  cases answer with
  | ok a => exact second a
  | error e => exact still (.ok (.error e)) (fun _ => rfl) fun _ => rfl

theorem reporting {act : Action σ (Outcome α)} {act' : Action τ (Outcome α)} (inner : Agree E act act')
    (report : Fault → Failure) : Agree E (act.reporting report) (act'.reporting report) :=
  inner.recover fun fault => still (.ok (.error (report fault))) (fun _ => rfl) fun _ => rfl

/-- Calls on parts of larger states. -/
theorem zoom {σ' τ' : Type} {F : σ' → τ' → Prop} {part : σ' → σ} {put : σ → σ' → σ'} {part' : τ' → τ}
    {put' : τ → τ' → τ'} {act : Action σ α} {act' : Action τ α} (inner : Agree E act act')
    (down : ∀ t u, F t u → E (part t) (part' u))
    (up : ∀ t u s s', F t u → E s s' → F (put s t) (put' s' u)) :
    Agree F (act.zoom part put) (act'.zoom part' put') := by
  intro t u alike
  obtain ⟨same, after⟩ := inner (part t) (part' u) (down t u alike)
  exact ⟨same, up t u _ _ alike after⟩

end Agree

namespace Even

variable {E : σ → σ → Prop}

theorem still {act : Action σ α} (result : Attempt α) (same : ∀ s, act s = (result, s)) : Even E act :=
  Agree.still result same same

/-- A call that begins by looking at what is shared. -/
theorem state {next : σ → Action σ β} (same : ∀ s t, E s t → next s = next t)
    (each : ∀ s t, E s t → Even E (next s)) : Even E (Action.state >>= next) :=
  Agree.state fun s t alike => same s t alike ▸ each s t alike

end Even

/-- A call always answers, and its failures are of one kind. -/
def Answers (kind : Failure → Prop) (act : Action σ (Outcome α)) : Prop :=
  ∀ s, ∃ answer later, act s = (.ok answer, later) ∧ ∀ e, answer = .error e → kind e

/-- A call may be interrupted, but its failures are of one kind. -/
def FailsBy (kind : Failure → Prop) (act : Action σ (Outcome α)) : Prop :=
  ∀ s e later, act s = (.ok (.error e), later) → kind e

section

variable {kind : Failure → Prop}

theorem failsBy_ok (a : α) : FailsBy kind (pure (.ok a) : Action σ (Outcome α)) := by
  intro s e later run
  cases run

theorem failsBy_error {e : Failure} (fits : kind e) : FailsBy kind (pure (.error e) : Action σ (Outcome α)) := by
  intro s e' later run
  cases run
  exact fits

theorem FailsBy.bind {act : Action σ β} {next : β → Action σ (Outcome α)} (second : ∀ b, FailsBy kind (next b)) :
    FailsBy kind (act >>= next) := by
  intro s e later run
  rcases first : act s with ⟨fault | b, middle⟩
  · rw [bind_of_error first] at run
    cases run
  · rw [bind_of_ok first] at run
    exact second b middle e later run

theorem FailsBy.onSuccess {act : Action σ (Outcome α)} {next : α → Action σ (Outcome β)}
    (first : FailsBy kind act) (second : ∀ a, FailsBy kind (next a)) : FailsBy kind (act.onSuccess next) := by
  intro s e later run
  rcases before : act s with ⟨fault | e' | a, middle⟩
  · rw [onSuccess_of_fault before] at run
    cases run
  · rw [onSuccess_of_error before] at run
    cases run
    exact first s e _ before
  · rw [onSuccess_of_ok before] at run
    exact second a _ e later run

theorem FailsBy.reporting {act : Action σ (Outcome α)} (inner : FailsBy kind act) {report : Fault → Failure}
    (fits : ∀ fault, kind (report fault)) : Answers kind (act.reporting report) := by
  intro s
  rcases run : act s with ⟨fault | answer, later⟩
  · refine ⟨_, later, reporting_of_fault run, fun e same => ?_⟩
    cases same
    exact fits fault
  · refine ⟨answer, later, reporting_of_ok run, fun e same => ?_⟩
    subst same
    exact inner s e later run

theorem Answers.state {next : σ → Action σ (Outcome α)} (each : ∀ s, Answers kind (next s)) :
    Answers kind (Action.state >>= next) :=
  fun s => each s s

theorem answers_ok (a : α) : Answers kind (pure (.ok a) : Action σ (Outcome α)) := by
  intro s
  refine ⟨.ok a, s, rfl, fun e same => ?_⟩
  cases same

end

end Depot.Action
