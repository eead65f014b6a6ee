import Depot.Dispatch.Resolve
import Mathlib.Data.List.Forall2

namespace Depot.Dispatch

def Capabilities.has (c : Capabilities) : Capability → Bool
  | .blobs => c.blobs
  | .keyValue => c.keyValue
  | .messenger => c.messenger

theorem Capabilities.includes_only (c : Capabilities) (capability : Capability) :
    c.includes (.only capability) = c.has capability := by
  cases capability <;> simp [includes, only, has]

def Module.Declares (m : Module) (capability : Capability) (scheme : String) : Prop :=
  m.capabilities.has capability ∧ scheme ∈ m.schemes

instance (m : Module) (capability : Capability) (scheme : String) :
    Decidable (m.Declares capability scheme) :=
  inferInstanceAs (Decidable (_ ∧ _))

/-- The modules that are to be asked. -/
def Registry.declaring (r : Registry) (capability : Capability) (scheme : String) : List Module :=
  r.modules.filter fun m => m.Declares capability scheme

theorem Registry.candidates_only (r : Registry) (capability : Capability) (scheme : String) :
    r.candidates (.only capability) scheme = r.declaring capability scheme := by
  refine List.filter_congr fun m _ => ?_
  rw [Module.handles, Capabilities.includes_only, Bool.eq_iff_iff, decide_eq_true_eq]
  simp [Module.Declares]

/-- An answer that ends a resolution: a backend, a critical failure of the configuration, or a failure of any
other area. -/
inductive Decides : Outcome (Option Backend) → Prop
  | backend (b : Backend) : Decides (.ok (some b))
  | critical {e : Failure} (configuration : e.area = .configuration) (halts : e.isCritical) :
      Decides (.error e)
  | elsewhere {e : Failure} (area : e.area ≠ .configuration) : Decides (.error e)

theorem not_decides_none : ¬ Decides (.ok none) := by
  intro decides
  cases decides

theorem decides_error_iff {e : Failure} : Decides (.error e) ↔ ¬ passes e := by
  rw [passes, Bool.and_eq_true, not_and_or, decide_eq_true_eq, Bool.not_eq_true', Bool.not_eq_false]
  constructor
  · intro decides
    cases decides with
    | critical _ halts => exact Or.inr halts
    | elsewhere area => exact Or.inl area
  · rintro (area | halts)
    · exact .elsewhere area
    · by_cases configuration : e.area = .configuration
      · exact .critical configuration halts
      · exact .elsewhere configuration

variable {nobody : Failure} {capability : Capability} {cs : ConnectionString}

variable (nobody) in
theorem walk_of_not_decides {m : Module} (silent : ¬ Decides (m.create capability cs)) (rest : List Module) :
    (walk nobody capability cs (m :: rest)).answer = (walk nobody capability cs rest).answer ∧
      (walk nobody capability cs (m :: rest)).asked = m.serial :: (walk nobody capability cs rest).asked := by
  rw [walk]
  cases said : m.create capability cs with
  | ok made =>
    cases made with
    | none => exact ⟨rfl, rfl⟩
    | some b => exact absurd (said ▸ .backend b) silent
  | error e =>
    have passed : passes e := by
      rw [said, decides_error_iff, not_not] at silent
      exact silent
    simp only [passed, if_true, and_self]

variable (nobody) in
theorem walk_of_decides {m : Module} (decides : Decides (m.create capability cs)) (rest : List Module) :
    m.create capability cs = (walk nobody capability cs (m :: rest)).answer.map some ∧
      (walk nobody capability cs (m :: rest)).asked = [m.serial] := by
  rw [walk]
  cases said : m.create capability cs with
  | ok made =>
    cases made with
    | none => exact absurd (said ▸ decides) not_decides_none
    | some b => exact ⟨rfl, rfl⟩
  | error e =>
    have halted : ¬ passes e := decides_error_iff.mp (said ▸ decides)
    simp only [halted]
    exact ⟨rfl, rfl⟩

/-- What asking some modules in turn comes to: the answer of the first that decides, and who was asked. -/
inductive Settles (nobody : Failure) (capability : Capability) (cs : ConnectionString)
    (candidates : List Module) : Outcome Backend → List Nat → Prop
  | decided (before after : List Module) {m : Module} {answer : Outcome Backend}
      (order : candidates = before ++ m :: after)
      (silent : ∀ earlier ∈ before, ¬ Decides (earlier.create capability cs))
      (decides : Decides (m.create capability cs)) (unchanged : m.create capability cs = answer.map some) :
      Settles nobody capability cs candidates answer ((before ++ [m]).map Module.serial)
  | undecided (silent : ∀ m ∈ candidates, ¬ Decides (m.create capability cs)) :
      Settles nobody capability cs candidates (.error nobody) (candidates.map Module.serial)

variable (nobody) in
theorem walk_append {before : List Module}
    (silent : ∀ earlier ∈ before, ¬ Decides (earlier.create capability cs)) (rest : List Module) :
    (walk nobody capability cs (before ++ rest)).answer = (walk nobody capability cs rest).answer ∧
      (walk nobody capability cs (before ++ rest)).asked =
        before.map Module.serial ++ (walk nobody capability cs rest).asked := by
  induction before with
  | nil => exact ⟨rfl, rfl⟩
  | cons m before ih =>
    obtain ⟨atHead, inTail⟩ := List.forall_mem_cons.mp silent
    obtain ⟨answer, asked⟩ := ih inTail
    obtain ⟨same, more⟩ := walk_of_not_decides nobody atHead (before ++ rest)
    rw [List.cons_append, same, more, answer, asked]
    exact ⟨rfl, rfl⟩

theorem settles_walk (candidates : List Module) :
    Settles nobody capability cs candidates (walk nobody capability cs candidates).answer
      (walk nobody capability cs candidates).asked := by
  induction candidates with
  | nil => exact .undecided fun m member => absurd member List.not_mem_nil
  | cons m rest ih =>
    by_cases decides : Decides (m.create capability cs)
    · obtain ⟨unchanged, asked⟩ := walk_of_decides nobody decides rest
      rw [asked]
      exact .decided [] rest rfl (fun earlier none_before => absurd none_before List.not_mem_nil)
        decides unchanged
    · obtain ⟨answer, asked⟩ := walk_of_not_decides nobody decides rest
      rw [answer, asked]
      -- The rest has settled. This module goes in front of those that were silent there.
      generalize (walk nobody capability cs rest).answer = said at ih ⊢
      generalize (walk nobody capability cs rest).asked = who at ih ⊢
      cases ih with
      | decided before after order silent later unchanged =>
        subst order
        exact .decided (m :: before) after rfl (List.forall_mem_cons.mpr ⟨decides, silent⟩) later unchanged
      | undecided silent => exact .undecided (List.forall_mem_cons.mpr ⟨decides, silent⟩)

theorem walk_of_settles {candidates : List Module} {answer : Outcome Backend} {asked : List Nat}
    (settles : Settles nobody capability cs candidates answer asked) :
    (walk nobody capability cs candidates).answer = answer ∧
      (walk nobody capability cs candidates).asked = asked := by
  have injective : Function.Injective (Except.map some : Outcome Backend → Outcome (Option Backend)) := by
    rintro (a | a) (b | b) same <;> simp_all [Except.map]
  cases settles with
  | decided before after order silent decides unchanged =>
    subst order
    obtain ⟨said, last⟩ := walk_of_decides nobody decides after
    obtain ⟨answered, asked⟩ := walk_append nobody silent (_ :: after)
    rw [answered, asked, last, List.map_append]
    exact ⟨injective (said.symm.trans unchanged), rfl⟩
  | undecided silent =>
    obtain ⟨answered, asked⟩ := walk_append nobody silent []
    rw [List.append_nil] at answered asked
    rw [answered, asked, walk, List.append_nil]
    exact ⟨rfl, rfl⟩

/-- Two modules that differ in their answers at most, and answer alike if the first is among those asked. -/
structure Interchangeable (capability : Capability) (cs : ConnectionString) (asked : List Nat)
    (m m' : Module) : Prop where
  serial : m'.serial = m.serial
  name : m'.name = m.name
  schemes : m'.schemes = m.schemes
  capabilities : m'.capabilities = m.capabilities
  answer : m.serial ∈ asked → m'.create capability cs = m.create capability cs

theorem walk_congr {asked : List Nat} {candidates others : List Module}
    (alike : List.Forall₂ (Interchangeable capability cs asked) candidates others)
    (within : ∀ n ∈ (walk nobody capability cs candidates).asked, n ∈ asked) :
    walk nobody capability cs others = walk nobody capability cs candidates := by
  induction alike with
  | nil => rfl
  | @cons m m' rest others' same _ ih =>
    have first : m.serial ∈ asked := by
      by_cases decides : Decides (m.create capability cs)
      · exact within _ ((walk_of_decides nobody decides rest).2 ▸ List.mem_cons_self)
      · exact within _ ((walk_of_not_decides nobody decides rest).2 ▸ List.mem_cons_self)
    -- Whoever comes later matters only if this module does not decide, and then was asked as well.
    have later (silent : ¬ Decides (m.create capability cs)) :
        walk nobody capability cs others' = walk nobody capability cs rest := by
      refine ih fun n member => within n ?_
      rw [(walk_of_not_decides nobody silent rest).2]
      exact List.mem_cons_of_mem _ member
    have entries : entry m' = entry m := by
      funext said
      rw [entry, entry, same.name]
    rw [walk, walk, same.answer first, same.serial, entries]
    cases said : m.create capability cs with
    | ok made =>
      cases made with
      | some b => rfl
      | none => rw [later (said ▸ not_decides_none)]
    | error e =>
      by_cases passed : passes e
      · rw [later (said ▸ fun decides => decides_error_iff.mp decides passed)]
      · simp only [if_neg passed]

theorem Registry.declaring_alike {asked : List Nat} {r r' : Registry} {scheme : String}
    (alike : List.Forall₂ (Interchangeable capability cs asked) r.modules r'.modules) :
    List.Forall₂ (Interchangeable capability cs asked) (r.declaring capability scheme)
      (r'.declaring capability scheme) := by
  refine List.rel_filter (fun m m' same => ?_) alike
  have declares : m'.Declares capability scheme ↔ m.Declares capability scheme := by
    rw [Module.Declares, same.capabilities, same.schemes, Module.Declares]
  simp only [decide_eq_true_eq, declares]

/-- What a resolution has to come to. -/
def Registry.Settles (r : Registry) (capability : Capability) (cs : ConnectionString) :
    Outcome Backend → List Nat → Prop :=
  Dispatch.Settles (.unrecognizedPrefix cs.scheme capability.label r.modules.length) capability cs
    (r.declaring capability cs.scheme)

/-- A text that cannot be parsed is answered by what is wrong with it, and no module is asked. Of any other
text, and of any connection string, the answer and the modules asked are the ones that the declaring modules
settle on. If none of them decides, the failure names the scheme and how many modules are registered. Modules
that are not asked could answer anything else. -/
theorem Registry.resolve_settles (r : Registry) (capability : Capability) :
    (∀ text e, ConnectionString.parse text = .error e →
      (r.resolveText capability text).answer = .error e ∧ (r.resolveText capability text).asked = []) ∧
    (∀ text cs, ConnectionString.parse text = .ok cs →
      r.resolveText capability text = r.resolve capability cs) ∧
    (∀ cs answer asked, r.Settles capability cs answer asked ↔
      (r.resolve capability cs).answer = answer ∧ (r.resolve capability cs).asked = asked) ∧
    (∀ cs, (∀ m ∈ r.declaring capability cs.scheme, ¬ Decides (m.create capability cs)) →
      ∃ e, (r.resolve capability cs).answer = .error e ∧ e.code = .unrecognizedPrefix ∧
        e.scheme = .text cs.scheme ∧ e.context.get? "modules_tried" = some (.int r.modules.length)) ∧
    ∀ cs (r' : Registry),
      List.Forall₂ (Interchangeable capability cs (r.resolve capability cs).asked) r.modules r'.modules →
      r'.resolve capability cs = r.resolve capability cs := by
  have walked (cs : ConnectionString) : r.resolve capability cs =
      walk (.unrecognizedPrefix cs.scheme capability.label r.modules.length) capability cs
        (r.declaring capability cs.scheme) := by
    rw [resolve, candidates_only]
    rfl
  refine ⟨?_, ?_, ?_, ?_, ?_⟩
  · intro text e refused
    rw [resolveText, refused]
    exact ⟨rfl, rfl⟩
  · intro text cs accepted
    rw [resolveText, accepted]
  · intro cs answer asked
    rw [walked]
    constructor
    · exact walk_of_settles
    · rintro ⟨rfl, rfl⟩
      exact settles_walk _
  · intro cs silent
    rw [walked]
    exact ⟨_, (walk_of_settles (.undecided silent)).1, rfl, rfl, rfl⟩
  · intro cs r' alike
    have size : r'.modules.length = r.modules.length := alike.length_eq.symm
    rw [walked, resolve, candidates_only]
    unfold Registry.size
    rw [size]
    refine walk_congr (declaring_alike alike) fun n member => ?_
    rw [walked]
    exact member

/-- A module that answers every request alike. -/
def replying (serial : Nat) (schemes : List String) (capabilities : Capabilities)
    (answer : Outcome (Option Backend)) : Module where
  serial := serial
  name := "reply"
  kind := "Replying"
  schemes := schemes
  capabilities := capabilities
  create _ _ := answer

/-- Two modules that are no candidates, one that has nothing, one that passes, one that decides, and one that
comes too late. -/
def relay (last : Outcome (Option Backend)) : Registry :=
  ⟨[replying 0 ["q"] (.only .blobs) last, replying 1 ["p"] (.only .messenger) last,
    replying 2 ["p"] (.only .blobs) (.ok none),
    replying 3 ["o", "p"] (.only .blobs) (.error (.missingParameter "k" false none)),
    replying 4 ["p"] ⟨true, true, false⟩ (.error (.missingParameter "k" true none)),
    replying 5 ["p"] (.only .blobs) last]⟩

theorem Registry.resolve_settles_relay :
    ∃ cs, ConnectionString.parse "p://k=v" = .ok cs ∧
      (relay (.ok none)).resolveText .blobs "p://k=v" = (relay (.ok none)).resolve .blobs cs ∧
      ((relay (.ok none)).resolve .blobs cs).answer = .error (.missingParameter "k" true none) ∧
      ((relay (.ok none)).resolve .blobs cs).asked = [2, 3, 4] ∧
      (relay (.ok (some .memoryBlobs))).resolve .blobs cs = (relay (.ok none)).resolve .blobs cs := by
  let cs : ConnectionString := .ofParts "p" [("k", "v")] none (some "p://k=v")
  have accepted : ConnectionString.parse "p://k=v" = .ok cs := by rfl
  obtain ⟨-, parsed, settled, -, others⟩ := Registry.resolve_settles (relay (.ok none)) .blobs
  have settles : (relay (.ok none)).Settles .blobs cs (.error (.missingParameter "k" true none))
      [2, 3, 4] := by
    refine .decided [_, _] [_] rfl ?_ (.critical rfl rfl) rfl
    simp only [List.forall_mem_cons]
    refine ⟨not_decides_none, fun decides => decides_error_iff.mp decides rfl, fun m nobody_left => ?_⟩
    exact absurd nobody_left List.not_mem_nil
  obtain ⟨answer, asked⟩ := (settled _ _ _).mp settles
  refine ⟨cs, accepted, parsed _ _ accepted, answer, asked, others _ _ ?_⟩
  have unasked (n : Nat) (away : n ∉ [2, 3, 4]) (schemes : List String) (capabilities : Capabilities) :
      Interchangeable .blobs cs [2, 3, 4] (replying n schemes capabilities (.ok none))
        (replying n schemes capabilities (.ok (some .memoryBlobs))) :=
    ⟨rfl, rfl, rfl, rfl, fun member => absurd member away⟩
  have same (m : Module) : Interchangeable .blobs cs [2, 3, 4] m m := ⟨rfl, rfl, rfl, rfl, fun _ => rfl⟩
  rw [asked]
  exact .cons (unasked 0 (by decide) _ _) (.cons (unasked 1 (by decide) _ _) (.cons (same _) (.cons (same _)
    (.cons (same _) (.cons (unasked 5 (by decide) _ _) .nil)))))

end Depot.Dispatch
