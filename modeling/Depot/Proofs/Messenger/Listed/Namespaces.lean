import Depot.ListServer
import Depot.Proofs.ListServer
import Depot.Proofs.Messenger.Listed.Likeness

namespace Depot.Messenger

namespace Listed

/-- The names of the inner messenger begin as those of the outer do for some of its channels. -/
def Nests (outer inner : String) : Prop :=
  (outer ++ ":channel:").toList <+: (inner ++ ":").toList ∨
    (outer ++ ":inflight:").toList <+: (inner ++ ":").toList

instance (outer inner : String) : Decidable (Nests outer inner) :=
  inferInstanceAs (Decidable (_ ∨ _))

/-- What follows the name of a messenger and a colon in one of its names on the server. -/
inductive Tail : List Char → Prop
  | registry : Tail "channels".toList
  | pending (channel : List Char) : Tail ("channel".toList ++ ':' :: channel)
  | inFlight (channel : List Char) : Tail ("inflight".toList ++ ':' :: channel)

theorem exists_tail {name key : String} (uses : Uses name key) :
    ∃ tail, Tail tail ∧ key.toList = name.toList ++ ':' :: tail := by
  cases uses with
  | registry => exact ⟨_, .registry, by simp [Key.registry]⟩
  | pending channel => exact ⟨_, .pending channel.toList, by simp [Key.pending]⟩
  | inFlight channel => exact ⟨_, .inFlight channel.toList, by simp [Key.inFlight]⟩

/-- Where a text goes on after a word and a colon, it has a colon no earlier than the word does. -/
theorem prefix_of_word {word rest front back : List Char} (plain : ':' ∉ word)
    (same : word ++ ':' :: rest = front ++ ':' :: back) : word ++ [':'] <+: front ++ [':'] := by
  have left : word ++ [':'] <+: word ++ ':' :: rest := ⟨rest, by simp⟩
  have right : front ++ [':'] <+: word ++ ':' :: rest := ⟨back, by simp [same]⟩
  rcases List.prefix_or_prefix_of_prefix left right with shorter | longer
  · exact shorter
  · rcases List.prefix_concat_iff.mp longer with equal | within
    · exact equal ▸ List.prefix_refl _
    · exact absurd (within.subset (List.mem_append_right _ (List.mem_singleton_self ':'))) plain

/-- Where two names on the server are the same, the longer of the messengers' names continues the shorter. -/
theorem nests_of_longer {outer inner : String} {between tail tail' : List Char} (named : Tail tail)
    (longer : inner.toList = outer.toList ++ ':' :: between) (same : tail = between ++ ':' :: tail') :
    Nests outer inner := by
  have inner_colon : (inner ++ ":").toList = outer.toList ++ ':' :: (between ++ [':']) := by
    simp [longer]
  cases named with
  | registry =>
    have colon : ':' ∈ "channels".toList := same ▸ List.mem_append_right _ List.mem_cons_self
    exact absurd colon (by decide)
  | pending channel =>
    have front := prefix_of_word (by decide) same
    have outer_key : (outer ++ ":channel:").toList = outer.toList ++ ':' :: ("channel".toList ++ [':']) := by
      simp
    rw [Nests, inner_colon, outer_key]
    exact Or.inl ((List.prefix_append_right_inj _).mpr (List.cons_prefix_cons.mpr ⟨rfl, front⟩))
  | inFlight channel =>
    have front := prefix_of_word (by decide) same
    have outer_key : (outer ++ ":inflight:").toList = outer.toList ++ ':' :: ("inflight".toList ++ [':']) := by
      simp
    rw [Nests, inner_colon, outer_key]
    exact Or.inr ((List.prefix_append_right_inj _).mpr (List.cons_prefix_cons.mpr ⟨rfl, front⟩))

theorem nests_of_shared {p q key : String} (different : p ≠ q) (left : Uses p key) (right : Uses q key) :
    Nests p q ∨ Nests q p := by
  obtain ⟨tail, named, first⟩ := exists_tail left
  obtain ⟨tail', named', second⟩ := exists_tail right
  rcases List.append_eq_append_iff.mp (first.symm.trans second) with
    ⟨between, longer, same⟩ | ⟨between, longer, same⟩
  · cases between with
    | nil => exact absurd (String.toList_inj.mp (longer.trans (List.append_nil _))).symm different
    | cons c between =>
      obtain ⟨rfl, rest⟩ := List.cons.inj same
      exact Or.inl (nests_of_longer named longer rest)
  · cases between with
    | nil => exact absurd (String.toList_inj.mp (longer.trans (List.append_nil _))) different
    | cons c between =>
      obtain ⟨rfl, rest⟩ := List.cons.inj same
      exact Or.inr (nests_of_longer named' longer rest)

/-- If one messenger's name continues the other's, then one of the other's channels is its set of channels. -/
theorem shared_of_nests {outer inner : String} (nests : Nests outer inner) :
    ∃ key, Uses outer key ∧ Uses inner key := by
  rcases nests with ⟨rest, longer⟩ | ⟨rest, longer⟩
  · have same : Key.registry inner = Key.pending outer (String.ofList (rest ++ "channels".toList)) := by
      have continued := congrArg (· ++ "channels".toList) longer
      refine String.toList_inj.mp ?_
      simpa [Key.registry, Key.pending] using continued.symm
    exact ⟨Key.registry inner, same ▸ .pending _, .registry⟩
  · have same : Key.registry inner = Key.inFlight outer (String.ofList (rest ++ "channels".toList)) := by
      have continued := congrArg (· ++ "channels".toList) longer
      refine String.toList_inj.mp ?_
      simpa [Key.registry, Key.inFlight] using continued.symm
    exact ⟨Key.registry inner, same ▸ .inFlight _, .registry⟩

theorem apart_iff {p q : String} (different : p ≠ q) :
    (∀ key, ¬ (Uses p key ∧ Uses q key)) ↔ ¬ Nests p q ∧ ¬ Nests q p := by
  constructor
  · intro apart
    refine ⟨fun nests => ?_, fun nests => ?_⟩
    · exact (shared_of_nests nests).elim apart
    · exact (shared_of_nests nests).elim fun key shared => apart key shared.symm
  · rintro ⟨outside, inside⟩ key ⟨left, right⟩
    exact (nests_of_shared different left right).elim outside inside

end Listed

/-- What may be done with a messenger. -/
inductive Step where
  | call (call : Call)
  | connect
  | close

def Step.on {σ : Type} [ListClient σ] : Step → Action (Listed σ) (Outcome Reply)
  | call asked => asked.on listed
  | connect => answering (fun _ => .done) Listed.connect
  | close => do
    Listed.close
    return .ok .done

inductive Turn where
  | mine (step : Step)
  | theirs (step : Step)

section

variable {σ : Type}

/-- The messenger on the server of another. Each has a connection of its own. -/
def Listed.sharing (s t : Listed (Unsteady σ)) : Listed (Unsteady σ) :=
  { s with server := { s.server with server := t.server.server } }

variable [ListClient σ]

/-- The answers to one of two messengers on the same server. -/
def together : List Turn → Listed (Unsteady σ) → Listed (Unsteady σ) → List (Attempt (Outcome Reply))
  | [], _, _ => []
  | .mine step :: rest, s, t => (step.on s).1 :: together rest (step.on s).2 (t.sharing (step.on s).2)
  | .theirs step :: rest, s, t => together rest (s.sharing (step.on t).2) (step.on t).2

/-- The answers to a messenger that has the server for itself. -/
def alone : List Turn → Listed (Unsteady σ) → List (Attempt (Outcome Reply))
  | [], _ => []
  | .mine step :: rest, s => (step.on s).1 :: alone rest (step.on s).2
  | .theirs _ :: rest, s => alone rest s

end

open ListClient (Data Lawful Names Steady)

namespace Step

variable {σ : Type} [ListClient σ] {held : σ → Data} {ready : σ → Prop} (lawful : Lawful held ready)
include lawful

theorem even (steady : Steady held ready) {settings : Settings.Server} (step : Step) :
    Action.Even (Listed.Akin held ready (Listed.Uses settings.namespaceName) settings) step.on := by
  cases step with
  | call asked =>
    cases needs : asked.needsClient with
    | true => exact (Call.engages needs settings).even lawful steady
    | false =>
      rw [on, Call.idle needs]
      exact .still (.ok (.ok .done)) fun _ => rfl
  | connect =>
    refine (Listed.even_connect lawful).bind fun answer => ?_
    exact .still (.ok (answer.map fun _ => .done)) (fun _ => rfl) fun _ => rfl
  | close => exact (Listed.even_close lawful).bind fun _ => .still (.ok (.ok .done)) (fun _ => rfl) fun _ => rfl

/-- Whatever is done with a messenger and whatever becomes of it, nothing is changed under names that the messenger
does not use. -/
theorem spares (step : Step) (s : Listed σ) :
    (step.on s).2.settings = s.settings ∧ Listed.Spares s.settings.namespaceName
      (Listed.Uses s.settings.namespaceName) (held s.server) (held (step.on s).2.server) := by
  cases step with
  | call asked =>
    cases needs : asked.needsClient with
    | true => exact (Call.engages needs s.settings).spares lawful
    | false =>
      rw [on, Call.idle needs]
      exact ⟨rfl, refl _⟩
  | connect =>
    have rests := Listed.rests_connect lawful s
    rw [on, answering, Action.bind_pure_snd, rests.data]
    exact ⟨rests.settings, refl _⟩
  | close =>
    have rests := Listed.rests_close lawful s
    rw [on, Action.bind_pure_snd, rests.data]
    exact ⟨rests.settings, refl _⟩

end Step

section

variable {σ : Type} {held : σ → Data} {s t u : Listed (Unsteady σ)}

/-- What others do under other names leaves a messenger in a state that is the same to it. -/
theorem akin_sharing {K : String → Prop} {settings : Settings.Server}
    (akin : Listed.Akin held (fun _ => True) K settings s u) (inside : K (Listed.Key.registry settings.namespaceName))
    (kept : ∀ key, K key → held t.server.server key = held s.server.server key) :
    Listed.Akin held (fun _ => True) K settings (s.sharing t) u where
  left := akin.left
  right := akin.right
  isOpen := akin.isOpen
  ids := akin.ids
  server :=
    { installed := akin.server.installed
      fates := akin.server.fates
      server := ⟨trivial, trivial, fun key within => (kept key within).trans (akin.server.server.agree key within)⟩
      names := akin.server.names.congr (kept _ inside) }

variable [ListClient σ] (lawful : Lawful held fun _ => True) (steady : Steady held fun _ => True)
include lawful steady

theorem together_of_akin {settings : Settings.Server} {other : String}
    (apart : ∀ key, ¬ (Listed.Uses settings.namespaceName key ∧ Listed.Uses other key)) (turns : List Turn)
    (akin : Listed.Akin held (fun _ => True) (Listed.Uses settings.namespaceName) settings s u)
    (theirs : t.settings.namespaceName = other) (shared : t.server.server = s.server.server) :
    together turns s t = alone turns u := by
  -- Of the two runs, the one with others in it stays the same to the messenger, and its server is shared.
  induction turns generalizing s t u with
  | nil => rfl
  | cons turn rest ih =>
    cases turn with
    | mine step =>
      obtain ⟨same, after⟩ := step.even lawful steady s u akin
      rw [together, alone, same, ih (t := t.sharing (step.on s).2) after theirs rfl]
    | theirs step =>
      obtain ⟨named, spares⟩ := step.spares (Unsteady.lawful lawful) t
      refine ih (akin_sharing akin .registry fun key used => ?_) ?_ rfl
      · rw [← shared]
        exact spares.elsewhere key fun used' => apart key ⟨used, theirs ▸ used'⟩
      · rw [named, theirs]

end

/-- Two messengers whose names differ share a name on the server just when the name of one continues that of the
other as one of its channels does. What is done with a messenger changes nothing under names that it does not
use, whatever becomes of its calls to the server. Without a name that is shared, whatever is done with the two in
whatever order, each is answered as if it had the server for itself, which is reached over connections that may
fail, each in its own ways. In the set of channels there are names at the start, and nothing else. -/
theorem isolated_unless_nested {p q : String} (different : p ≠ q) :
    ((∀ key, ¬ (Listed.Uses p key ∧ Listed.Uses q key)) ↔ ¬ Listed.Nests p q ∧ ¬ Listed.Nests q p) ∧
    (∀ (σ : Type) [ListClient σ] (held : σ → Data) (ready : σ → Prop), Lawful held ready →
      ∀ (step : Step) (s : Listed σ) key, ¬ Listed.Uses s.settings.namespaceName key →
        held (step.on s).2.server key = held s.server key) ∧
    (¬ Listed.Nests p q ∧ ¬ Listed.Nests q p → ∀ (σ : Type) [ListClient σ] (held : σ → Data),
      (Lawful held fun _ => True) → (Steady held fun _ => True) →
        ∀ s t : Listed (Unsteady σ), s.settings.namespaceName = p → t.settings.namespaceName = q →
          t.server.server = s.server.server → Names (Listed.Key.registry p) (held s.server.server) →
            ∀ turns, together turns s t = alone turns s) := by
  refine ⟨Listed.apart_iff different, fun σ _ held ready lawful step s => (step.spares lawful s).2.elsewhere, ?_⟩
  rintro outside σ _ held lawful steady s t rfl rfl shared names turns
  refine together_of_akin lawful steady ((Listed.apart_iff different).mpr outside) turns ?_ rfl shared
  exact ⟨rfl, rfl, rfl, rfl, rfl, rfl, ⟨trivial, trivial, fun _ _ => rfl⟩, names⟩

/-- The second messenger sends on a channel and the first counts what waits in one of its own. -/
def crossing (mine theirs : String) : List Turn :=
  [.mine (.call (.createChannels [mine])), .theirs (.call (.send theirs [{ content := [97] }])),
    .mine (.call (.count mine))]

/-- A messenger with a server that holds nothing. -/
def called (name : String) : Listed (Unsteady ListServer) where
  settings := { namespaceName := name }
  server := { server := {} }

theorem isolated_unless_nested_siblings :
    together (crossing "x" "x") (called "a") (called "b") = alone (crossing "x" "x") (called "a") ∧
      (alone (crossing "x" "x") (called "a"))[1]? = some (.ok (.ok (.count 0))) := by
  refine ⟨(isolated_unless_nested (p := "a") (q := "b") (by decide)).2.2 (by decide) _ _ ListServer.lawful
    ListServer.steady (called "a") (called "b") rfl rfl rfl (.nothing _) _, rfl⟩

/-- A message that one messenger sends is counted by another whose name is not the same. -/
theorem nested_not_isolated :
    Listed.Key.pending "a:channel" "x" = Listed.Key.pending "a" "channel:x" ∧
      (alone (crossing "x" "channel:x") (called "a:channel"))[1]? = some (.ok (.ok (.count 0))) ∧
      (together (crossing "x" "channel:x") (called "a:channel") (called "a"))[1]? = some (.ok (.ok (.count 1))) :=
  ⟨rfl, rfl, rfl⟩

end Depot.Messenger
