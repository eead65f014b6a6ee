import Depot.Fault
import Mathlib.Data.List.Forall2
import Mathlib.Tactic.Common

namespace Depot.Outcome

variable {ε α β : Type}

theorem map_eq_ok_iff {f : α → β} {x : Except ε α} {b : β} :
    x.map f = .ok b ↔ ∃ a, x = .ok a ∧ f a = b := by
  cases x with
  | error e => simp [Except.map]
  | ok a => simp [Except.map]

theorem map_eq_error_iff {f : α → β} {x : Except ε α} {e : ε} : x.map f = .error e ↔ x = .error e := by
  cases x with
  | error other => simp [Except.map]
  | ok a => simp [Except.map]

theorem toOption_eq_some_iff {x : Except ε α} {a : α} : x.toOption = some a ↔ x = .ok a := by
  cases x with
  | error e => simp [Except.toOption]
  | ok b => simp [Except.toOption]

theorem bind_eq_ok_iff {f : α → Except ε β} {x : Except ε α} {b : β} :
    x >>= f = .ok b ↔ ∃ a, x = .ok a ∧ f a = .ok b := by
  cases x with
  | error e => simp [bind, Except.bind]
  | ok a => simp [bind, Except.bind]

/-- A list of results succeeds as a whole when every one of them does. -/
theorem mapM_id_eq_ok_iff {xs : List (Except ε α)} {ys : List α} :
    xs.mapM id = .ok ys ↔ xs = ys.map .ok := by
  induction xs generalizing ys with
  | nil =>
    rw [List.mapM_nil]
    cases ys <;> simp [pure, Except.pure]
  | cons x rest ih =>
    rw [List.mapM_cons, bind_eq_ok_iff]
    constructor
    · rintro ⟨y, rfl, more⟩
      obtain ⟨others, run, same⟩ := bind_eq_ok_iff.mp more
      cases same
      rw [List.map_cons, ih.mp run]
    · intro same
      cases ys with
      | nil => cases same
      | cons y others =>
        rw [List.map_cons, List.cons.injEq] at same
        refine ⟨y, same.1, bind_eq_ok_iff.mpr ⟨others, ih.mpr same.2, rfl⟩⟩

/-- Steps over a list succeed when each does, and give the results in order. -/
theorem mapM_eq_ok_iff {f : α → Except ε β} {xs : List α} {ys : List β} :
    xs.mapM f = .ok ys ↔ List.Forall₂ (fun x y => f x = .ok y) xs ys := by
  induction xs generalizing ys with
  | nil =>
    rw [List.mapM_nil, List.forall₂_nil_left_iff]
    cases ys <;> simp [pure, Except.pure]
  | cons x rest ih =>
    rw [List.mapM_cons, bind_eq_ok_iff, List.forall₂_cons_left_iff]
    constructor
    · rintro ⟨y, first, more⟩
      obtain ⟨others, run, same⟩ := bind_eq_ok_iff.mp more
      cases same
      exact ⟨y, others, first, ih.mp run, rfl⟩
    · rintro ⟨y, others, first, run, rfl⟩
      exact ⟨y, first, bind_eq_ok_iff.mpr ⟨others, ih.mpr run, rfl⟩⟩

theorem exists_of_mapM_eq_ok {f : α → Except ε β} {xs : List α} {ys : List β} (run : xs.mapM f = .ok ys) {x : α}
    (member : x ∈ xs) : ∃ y ∈ ys, f x = .ok y := by
  induction mapM_eq_ok_iff.mp run with
  | nil => cases member
  | cons first _ ih =>
    rcases List.mem_cons.mp member with rfl | later
    · exact ⟨_, List.mem_cons_self, first⟩
    · obtain ⟨y, inside, done⟩ := ih (mapM_eq_ok_iff.mpr ‹_›) later
      exact ⟨y, List.mem_cons_of_mem _ inside, done⟩

theorem exists_of_mem_of_mapM_eq_ok {f : α → Except ε β} {xs : List α} {ys : List β} (run : xs.mapM f = .ok ys)
    {y : β} (member : y ∈ ys) : ∃ x ∈ xs, f x = .ok y := by
  induction mapM_eq_ok_iff.mp run with
  | nil => cases member
  | cons first _ ih =>
    rcases List.mem_cons.mp member with rfl | later
    · exact ⟨_, List.mem_cons_self, first⟩
    · obtain ⟨x, inside, done⟩ := ih (mapM_eq_ok_iff.mpr ‹_›) later
      exact ⟨x, List.mem_cons_of_mem _ inside, done⟩

/-- Steps over a list can be taken when each of them can. -/
theorem exists_mapM_eq_ok {f : α → Except ε β} {xs : List α} (each : ∀ x ∈ xs, ∃ y, f x = .ok y) :
    ∃ ys, xs.mapM f = .ok ys := by
  induction xs with
  | nil => exact ⟨[], rfl⟩
  | cons x rest ih =>
    obtain ⟨⟨y, first⟩, inTail⟩ := List.forall_mem_cons.mp each
    obtain ⟨ys, others⟩ := ih inTail
    exact ⟨y :: ys, mapM_eq_ok_iff.mpr (.cons first (mapM_eq_ok_iff.mp others))⟩

/-- A function that succeeds on every member of a list succeeds on the list. -/
theorem mapM_of_forall_mem {f : α → Except ε β} {g : α → β} {xs : List α} (each : ∀ x ∈ xs, f x = .ok (g x)) :
    xs.mapM f = .ok (xs.map g) := by
  induction xs with
  | nil => rfl
  | cons x rest ih =>
    obtain ⟨atHead, inTail⟩ := List.forall_mem_cons.mp each
    rw [List.mapM_cons, atHead, ih inTail]
    rfl

/-- Steps over a list fail at the first that does, with its error. -/
theorem exists_of_mapM_eq_error {f : α → Except ε β} {xs : List α} {e : ε} (failed : xs.mapM f = .error e) :
    ∃ before x after, xs = before ++ x :: after ∧ (∀ y ∈ before, ∃ b, f y = .ok b) ∧ f x = .error e := by
  induction xs with
  | nil => cases failed
  | cons x rest ih =>
    rw [List.mapM_cons] at failed
    cases first : f x with
    | error other =>
      rw [first] at failed
      cases failed
      exact ⟨[], x, rest, rfl, fun _ nowhere => (nomatch nowhere), first⟩
    | ok b =>
      rw [first] at failed
      cases more : rest.mapM f with
      | error other =>
        rw [more] at failed
        cases failed
        obtain ⟨before, y, after, rfl, good, bad⟩ := ih more
        exact ⟨x :: before, y, after, rfl, List.forall_mem_cons.mpr ⟨⟨b, first⟩, good⟩, bad⟩
      | ok others =>
        rw [more] at failed
        cases failed

theorem mapM_eq_error {f : α → Except ε β} {before after : List α} {x : α} {e : ε}
    (good : ∀ y ∈ before, ∃ b, f y = .ok b) (bad : f x = .error e) :
    (before ++ x :: after).mapM f = .error e := by
  obtain ⟨ys, run⟩ := exists_mapM_eq_ok good
  rw [List.mapM_append, run, List.mapM_cons, bad]
  rfl

/-- The first failure of a list is one of its members. -/
theorem mem_of_mapM_id_eq_error {xs : List (Except ε α)} {e : ε} (failed : xs.mapM id = .error e) :
    .error e ∈ xs := by
  induction xs with
  | nil => cases failed
  | cons x rest ih =>
    rw [List.mapM_cons] at failed
    cases x with
    | error e' =>
      cases failed
      exact List.mem_cons_self
    | ok a =>
      cases more : rest.mapM id with
      | error e' =>
        have same : e' = e := by simpa [bind, Except.bind, more] using failed
        exact List.mem_cons_of_mem _ (ih (same ▸ more))
      | ok others => simp [bind, Except.bind, more, pure, Except.pure] at failed

theorem filterMap_toOption_map_ok (ys : List α) :
    (ys.map (Except.ok : α → Except ε α)).filterMap Except.toOption = ys := by
  rw [List.filterMap_map]
  exact List.filterMap_some

/-- Two outcomes that fail alike, or succeed both. -/
inductive SameEnd : Except ε α → Except ε α → Prop
  | success (x y : α) : SameEnd (.ok x) (.ok y)
  | failure (e : ε) : SameEnd (.error e) (.error e)

namespace SameEnd

theorem error_iff {x y : Except ε α} (same : SameEnd x y) (e : ε) : x = .error e ↔ y = .error e := by
  cases same with
  | success => exact iff_of_false nofun nofun
  | failure => rfl

/-- Two outcomes that go on from the same step. -/
theorem bind (step : Except ε β) {f g : β → Except ε α} (after : ∀ b, SameEnd (f b) (g b)) :
    SameEnd (step >>= f) (step >>= g) := by
  cases step with
  | ok b => exact after b
  | error e => exact .failure e

end SameEnd

end Depot.Outcome
