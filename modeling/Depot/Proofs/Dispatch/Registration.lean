import Depot.Proofs.Dispatch.Decision
import Mathlib.Data.List.Nodup

namespace Depot.Dispatch

namespace Registry

def serials (r : Registry) : List Nat := r.modules.map Module.serial

/-- What each of the registrations answers, and the registry that comes of them. -/
def registerAll (r : Registry) : List Module → List Bool × Registry
  | [] => ([], r)
  | m :: rest =>
    let (added, r) := r.register m
    let (answers, r) := r.registerAll rest
    (added :: answers, r)

variable {r : Registry} {m : Module}

theorem holds_iff : r.holds m ↔ m.serial ∈ r.serials := by
  simp [holds, serials]

theorem register_of_held (held : m.serial ∈ r.serials) : r.register m = (false, r) :=
  if_pos (holds_iff.mpr held)

theorem register_of_new (new : m.serial ∉ r.serials) : r.register m = (true, ⟨r.modules ++ [m]⟩) :=
  if_neg fun held => new (holds_iff.mp held)

theorem mem_serials_register {n : Nat} : n ∈ (r.register m).2.serials ↔ n ∈ r.serials ∨ n = m.serial := by
  by_cases held : m.serial ∈ r.serials
  · rw [register_of_held held]
    exact ⟨Or.inl, fun either => either.elim id fun same => same ▸ held⟩
  · rw [register_of_new held]
    simp [serials]

theorem nodup_register (m : Module) (once : r.serials.Nodup) : (r.register m).2.serials.Nodup := by
  by_cases held : m.serial ∈ r.serials
  · rwa [register_of_held held]
  · rw [register_of_new held]
    have concat : (⟨r.modules ++ [m]⟩ : Registry).serials = r.serials.concat m.serial := by simp [serials]
    rw [concat]
    exact List.Nodup.concat held once

theorem registerAll_cons (r : Registry) (m : Module) (rest : List Module) :
    r.registerAll (m :: rest) = ((r.register m).1 :: ((r.register m).2.registerAll rest).1,
      ((r.register m).2.registerAll rest).2) := rfl

theorem length_registerAll (ms : List Module) : (r.registerAll ms).1.length = ms.length := by
  induction ms generalizing r with
  | nil => rfl
  | cons m rest ih => rw [registerAll_cons, List.length_cons, List.length_cons, ih]

theorem mem_serials_registerAll {n : Nat} (ms : List Module) :
    n ∈ (r.registerAll ms).2.serials ↔ n ∈ r.serials ∨ n ∈ ms.map Module.serial := by
  induction ms generalizing r with
  | nil => exact ⟨Or.inl, fun either => either.elim id fun nowhere => absurd nowhere List.not_mem_nil⟩
  | cons m rest ih => rw [registerAll_cons, ih, mem_serials_register, List.map_cons, List.mem_cons, or_assoc]

theorem nodup_registerAll (ms : List Module) (once : r.serials.Nodup) : (r.registerAll ms).2.serials.Nodup := by
  induction ms generalizing r with
  | nil => exact once
  | cons m rest ih =>
    rw [registerAll_cons]
    exact ih (nodup_register m once)

/-- The modules that are added are those whose registration says so, in order. -/
theorem modules_registerAll (ms : List Module) : (r.registerAll ms).2.modules =
    r.modules ++ ((ms.zip (r.registerAll ms).1).filter Prod.snd).map Prod.fst := by
  induction ms generalizing r with
  | nil => exact (List.append_nil _).symm
  | cons m rest ih =>
    rw [registerAll_cons, ih, List.zip_cons_cons]
    by_cases held : m.serial ∈ r.serials
    · rw [register_of_held held, List.filter_cons_of_neg (by simp)]
    · rw [register_of_new held, List.filter_cons_of_pos rfl, List.map_cons, List.append_assoc,
        List.singleton_append]

/-- A registration adds its module if the module was neither held from the start nor registered before. -/
theorem answer_registerAll {ms : List Module} {i : Nat} (here : ms[i]? = some m) :
    (r.registerAll ms).1[i]? = some true ↔
      m.serial ∉ r.serials ∧ ∀ earlier ∈ ms.take i, earlier.serial ≠ m.serial := by
  induction ms generalizing r i with
  | nil => cases here
  | cons first rest ih =>
    rw [registerAll_cons]
    cases i with
    | zero =>
      cases here
      by_cases held : m.serial ∈ r.serials
      · simp [register_of_held held, held]
      · simp [register_of_new held, held]
    | succ i =>
      have before := ih (r := (r.register first).2) here
      rw [List.getElem?_cons_succ, before, mem_serials_register, List.take_succ_cons, List.forall_mem_cons,
        not_or, and_assoc, ne_comm]

/-- What registrations from the start come to: the registry holds each module once, in the order of the first
registrations, and these are the ones that say that they have added it. -/
structure FirstsHeld (ms : List Module) (answers : List Bool) (r : Registry) : Prop where
  length : answers.length = ms.length
  first_iff : ∀ i m, ms[i]? = some m →
    (answers[i]? = some true ↔ ∀ earlier ∈ ms.take i, earlier.serial ≠ m.serial)
  inOrder : r.modules = ((ms.zip answers).filter Prod.snd).map Prod.fst
  once : (r.modules.map Module.serial).Nodup
  complete : ∀ m ∈ ms, r.holds m

theorem firstsHeld_registerAll (ms : List Module) :
    FirstsHeld ms (empty.registerAll ms).1 (empty.registerAll ms).2 where
  length := length_registerAll ms
  first_iff i m here := by
    rw [answer_registerAll here]
    exact and_iff_right List.not_mem_nil
  inOrder := by rw [modules_registerAll, empty, List.nil_append]
  once := nodup_registerAll ms List.nodup_nil
  complete m member := holds_iff.mpr ((mem_serials_registerAll ms).mpr (Or.inr (List.mem_map_of_mem member)))

end Registry

variable {nobody : Failure} {capability : Capability} {cs : ConnectionString}

/-- A backend, or a failure that tells more than that there is nobody to make one. -/
def Conclusive (answer : Outcome Backend) : Prop := ∀ e, answer = .error e → e.code ≠ .unrecognizedPrefix

theorem exists_decides_of_answer {candidates : List Module}
    (answered : (walk nobody capability cs candidates).answer ≠ .error nobody) :
    ∃ m ∈ candidates, Decides (m.create capability cs) := by
  by_contra none_decides
  refine answered (walk_of_settles (.undecided fun m member decides => ?_)).1
  exact none_decides ⟨m, member, decides⟩

/-- Once a module decides, neither those behind it matter nor what would be said if nobody did. -/
theorem walk_extended {candidates : List Module} (decided : ∃ m ∈ candidates, Decides (m.create capability cs))
    (nobody' : Failure) (more : List Module) :
    walk nobody' capability cs (candidates ++ more) = walk nobody capability cs candidates := by
  induction candidates with
  | nil =>
    obtain ⟨m, nowhere, -⟩ := decided
    cases nowhere
  | cons first rest ih =>
    -- If the first one is silent, then it is one of the rest that decides.
    have later (silent : ¬ Decides (first.create capability cs)) :
        walk nobody' capability cs (rest ++ more) = walk nobody capability cs rest := by
      obtain ⟨m, member, decides⟩ := decided
      rcases List.mem_cons.mp member with rfl | behind
      · exact absurd decides silent
      · exact ih ⟨m, behind, decides⟩
    rw [List.cons_append, walk, walk]
    cases said : first.create capability cs with
    | ok made =>
      cases made with
      | some b => rfl
      | none => rw [later (said ▸ not_decides_none)]
    | error e =>
      by_cases passed : passes e
      · rw [later (said ▸ fun decides => decides_error_iff.mp decides passed)]
      · simp only [if_neg passed]

theorem Registry.resolve_registerAll (r : Registry) (more : List Module)
    (conclusive : Conclusive (r.resolve capability cs).answer) :
    (r.registerAll more).2.resolve capability cs = r.resolve capability cs := by
  rw [resolve, candidates, modules_registerAll, List.filter_append]
  exact walk_extended (exists_decides_of_answer fun unanswered => conclusive _ unanswered rfl) _ _

/-- Modules may be registered in any order and any number of times: each is held once, in the order of the first
registrations, and only those say that they have added something. Whatever is registered later, new or not, a
resolution that has come to a backend, or to any failure but that nobody was found, stays as it is: the answer,
the modules that are asked, and what is logged. -/
theorem Registry.registration_leaves_settled :
    (∀ ms, FirstsHeld ms (empty.registerAll ms).1 (empty.registerAll ms).2) ∧
    ∀ (r : Registry) (more : List Module) (capability : Capability),
      (∀ cs, Conclusive (r.resolve capability cs).answer →
        (r.registerAll more).2.resolve capability cs = r.resolve capability cs) ∧
      ∀ text, Conclusive (r.resolveText capability text).answer →
        (r.registerAll more).2.resolveText capability text = r.resolveText capability text := by
  refine ⟨firstsHeld_registerAll, fun r more capability => ⟨fun cs => resolve_registerAll r more, ?_⟩⟩
  intro text conclusive
  unfold resolveText at conclusive ⊢
  revert conclusive
  cases ConnectionString.parse text with
  | error e => exact fun _ => rfl
  | ok cs => exact resolve_registerAll r more

/-- A module that decides is registered between two that are not asked any more, one of them for the second time. -/
theorem Registry.registration_leaves_settled_latecomers :
    let early := replying 1 ["p"] (.only .blobs) (.error (.missingParameter "k" false none))
    let decider := replying 2 ["p"] (.only .blobs) (.error (.missingParameter "k" true none))
    let late := replying 3 ["p"] (.only .blobs) (.ok (some .memoryBlobs))
    let r := (empty.registerAll [early, decider, early]).2
    (empty.registerAll [early, decider, early]).1 = [true, true, false] ∧
      (r.resolveText .blobs "p://k=v").answer = .error (.missingParameter "k" true none) ∧
      (r.resolveText .blobs "p://k=v").asked = [1, 2] ∧
      (r.registerAll [late, early]).2.modules.map Module.serial = [1, 2, 3] ∧
      (r.registerAll [late, early]).2.resolveText .blobs "p://k=v" = r.resolveText .blobs "p://k=v" := by
  intro early decider late r
  have answer : (r.resolveText .blobs "p://k=v").answer = .error (.missingParameter "k" true none) := by rfl
  have conclusive : Conclusive (r.resolveText .blobs "p://k=v").answer := by
    intro e same
    cases answer.symm.trans same
    decide
  obtain ⟨-, later⟩ := Registry.registration_leaves_settled
  exact ⟨by rfl, answer, by rfl, by rfl, (later r [late, early] .blobs).2 _ conclusive⟩

end Depot.Dispatch
