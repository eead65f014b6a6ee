import Depot.Proofs.Action.Relations
import Depot.Proofs.ListClient.Unsteady
import Depot.Proofs.Messenger.Listed.Requests

namespace Depot

open ListClient (Data Lawful Names Request Stays Steady)

namespace Unsteady

variable {σ : Type}

/-- Two connections on which the same will become of each call. Their servers hold the same under some names, among
which is that of a set of names. -/
structure Alike (held : σ → Data) (ready : σ → Prop) (K : String → Prop) (key : String) (s t : Unsteady σ) :
    Prop where
  installed : s.isInstalled = t.isInstalled
  fates : s.fates = t.fates
  server : ListClient.Akin held ready K s.server t.server
  names : Names key (held s.server)

variable {held : σ → Data} {ready : σ → Prop} {K : String → Prop} {key : String} {s t : Unsteady σ}

theorem Alike.tail (alike : Alike held ready K key s t) {server other : σ}
    (akin : ListClient.Akin held ready K server other) (names : Names key (held server)) :
    Alike held ready K key { s with server, fates := s.fates.tail } { t with server := other, fates := t.fates.tail } :=
  ⟨alike.installed, congrArg List.tail alike.fates, akin, names⟩

theorem even_convey {act : Action σ Unit} (stays : ∀ s, Stays held ready s (act s)) :
    Action.Even (Alike held ready K key) (convey act) := by
  intro s t alike
  obtain ⟨same, akin⟩ := ListClient.akin_of_stays (stays s.server) (stays t.server) alike.server
  have names := alike.names.congr (congrFun (stays s.server).data key)
  cases told : s.fates.headD .carried with
  | carried =>
    rw [convey_carried told, convey_carried (alike.fates ▸ told)]
    exact ⟨same, alike.tail akin names⟩
  | undone fault =>
    rw [convey_undone told, convey_undone (alike.fates ▸ told)]
    exact ⟨rfl, alike.tail alike.server alike.names⟩
  | unreported fault =>
    rw [convey_unreported told, convey_unreported (alike.fates ▸ told)]
    exact ⟨rfl, alike.tail akin names⟩

theorem alike_request [ListClient σ] (lawful : Lawful held ready) (steady : Steady held ready) {r : Request}
    (full : r.Full) (within : ∀ key ∈ r.keys, K key) (sets : r.Sets key) (alike : Alike held ready K key s t) :
    r.Alike (ListClient.request r s).1 (ListClient.request r t).1 ∧
      Alike held ready K key (ListClient.request r s).2 (ListClient.request r t).2 := by
  obtain ⟨answers, akin⟩ := ListClient.akin_request lawful steady full within alike.server
  have names := alike.names.leads sets (lawful.leads full s.server)
  change r.Alike (convey (ListClient.request r) s).1 (convey (ListClient.request r) t).1 ∧
    Alike held ready K key (convey (ListClient.request r) s).2 (convey (ListClient.request r) t).2
  cases told : s.fates.headD .carried with
  | carried =>
    rw [convey_carried told, convey_carried (alike.fates ▸ told)]
    exact ⟨answers, alike.tail akin names⟩
  | undone fault =>
    rw [convey_undone told, convey_undone (alike.fates ▸ told)]
    exact ⟨.fault fault, alike.tail alike.server alike.names⟩
  | unreported fault =>
    rw [convey_unreported told, convey_unreported (alike.fates ▸ told)]
    exact ⟨.fault fault, alike.tail akin names⟩

end Unsteady

namespace Messenger.Listed

variable {σ α : Type}

/-- Two messengers with the same settings, between whose servers they cannot tell. -/
structure Akin (held : σ → Data) (ready : σ → Prop) (K : String → Prop) (settings : Settings.Server)
    (s t : Listed (Unsteady σ)) : Prop where
  left : s.settings = settings
  right : t.settings = settings
  isOpen : s.isOpen = t.isOpen
  ids : s.ids = t.ids
  server : Unsteady.Alike held ready K (Key.registry settings.namespaceName) s.server t.server

variable {held : σ → Data} {ready : σ → Prop} {K : String → Prop} {settings : Settings.Server}
variable {s t : Listed (Unsteady σ)}

theorem Akin.after (akin : Akin held ready K settings s t) {server other : Unsteady σ}
    (alike : Unsteady.Alike held ready K (Key.registry settings.namespaceName) server other) :
    Akin held ready K settings { s with server } { t with server := other } :=
  ⟨akin.left, akin.right, akin.isOpen, akin.ids, alike⟩

theorem even_onServer {act : Action σ Unit} (stays : ∀ s, Stays held ready s (act s)) :
    Action.Even (Akin held ready K settings) (onServer (Unsteady.convey act)) :=
  (Unsteady.even_convey stays).zoom (fun _ _ akin => akin.server) fun _ _ _ _ akin alike => akin.after alike

variable [ListClient σ] (lawful : Lawful held ready)
include lawful

section

variable (steady : Steady held ready)
include steady

theorem even_asks {r : Request} (touches : Touches settings.namespaceName K r) (exact : ∀ key, r ≠ .members key) :
    Action.Even (Akin held ready K settings) (onServer (ListClient.request r)) := by
  intro s t akin
  obtain ⟨answers, alike⟩ := Unsteady.alike_request lawful steady touches.full touches.within touches.sets akin.server
  exact ⟨answers.eq exact, akin.after alike⟩

/-- The members of the set come in any order, but the list of the channels is the same. -/
theorem even_enumerate (inside : K (Key.registry settings.namespaceName)) :
    Action.Even (Akin held ready K settings) (enumerate (Key.registry settings.namespaceName)) := by
  intro s t akin
  have touches : Touches settings.namespaceName K (.members (Key.registry settings.namespaceName)) :=
    touches_single trivial rfl inside trivial
  obtain ⟨answers, alike⟩ :=
    Unsteady.alike_request lawful steady touches.full touches.within touches.sets akin.server
  rcases one : ListClient.request (.members (Key.registry settings.namespaceName)) s.server with ⟨left, s'⟩
  rcases other : ListClient.request (.members (Key.registry settings.namespaceName)) t.server with ⟨right, t'⟩
  rw [one, other] at answers alike
  cases answers with
  | fault fault =>
    rw [enumerate_of_fault (onServer_apply one), enumerate_of_fault (onServer_apply other)]
    exact ⟨rfl, akin.after alike⟩
  | @told answer told told' same same' =>
    obtain ⟨names, given⟩ := akin.server.names.exists_eq_map
    have perm := given ▸ (Unsteady.lawful lawful).members_eq_ok one
    rw [enumerate_of_names (onServer_apply one) perm,
      enumerate_of_names (onServer_apply other) ((same'.trans same.symm).trans perm)]
    exact ⟨rfl, akin.after alike⟩

theorem Made.even {act : Action (Listed (Unsteady σ)) α} (made : Made settings K act) :
    Action.Even (Akin held ready K settings) act := by
  induction made with
  | still result => exact .still result fun _ => rfl
  | draws m =>
    intro s t akin
    refine ⟨?_, akin.left, akin.right, akin.isOpen, ?_, akin.server⟩
    · change Except.ok (stamp s.ids m).1 = Except.ok (stamp t.ids m).1
      rw [akin.ids]
    · change (stamp s.ids m).2 = (stamp t.ids m).2
      rw [akin.ids]
  | asks touches exact => exact even_asks lawful steady touches exact
  | lists inside => exact even_enumerate lawful steady inside
  | looks same _ ih =>
    exact .state (fun s t akin => same s t (akin.left.trans akin.right.symm)) fun s _ akin => ih s akin.left
  | bind _ _ ih ih' => exact ih.bind ih'
  | recover _ _ ih ih' => exact ih.recover ih'

end

theorem even_connect : Action.Even (Akin held ready K settings) connect := by
  refine .state (fun s t akin => ?_) fun s t akin => ?_
  · have installed : ListClient.isInstalled s.server = ListClient.isInstalled t.server := akin.server.installed
    rw [akin.isOpen, installed, akin.left, akin.right]
  split
  · exact .still (.ok (.ok ())) fun _ => rfl
  split
  · exact .still (.ok (.error _)) fun _ => rfl
  refine Action.Agree.onSuccess ?_ fun _ => Action.Agree.onSuccess ?_ fun _ => ?_
  · refine Action.Agree.reporting (Action.Agree.bind (.still _ (fun _ => rfl) fun _ => rfl) fun arguments => ?_) _
    exact (even_onServer (lawful.opened arguments)).bind fun _ => .still (.ok (.ok ())) (fun _ => rfl) fun _ => rfl
  · refine Action.Agree.recover ?_ fun fault => ?_
    · exact (even_onServer lawful.pinged).bind fun _ => .still (.ok (.ok ())) (fun _ => rfl) fun _ => rfl
    · exact (even_onServer lawful.closed).bind fun _ =>
        .still (.ok (.error _)) (fun _ => rfl) fun _ => rfl
  · refine Action.Agree.bind (fun s t akin => ⟨rfl, ?_⟩) fun _ => .still (.ok (.ok ())) (fun _ => rfl) fun _ => rfl
    exact ⟨akin.left, akin.right, rfl, akin.ids, akin.server⟩

theorem even_close : Action.Even (Akin held ready K settings) close := by
  refine .state (fun s t akin => by rw [akin.isOpen]) fun s _ _ => ?_
  split
  · refine (even_onServer lawful.closed).bind fun _ s t akin => ⟨rfl, ?_⟩
    exact ⟨akin.left, akin.right, rfl, akin.ids, akin.server⟩
  · exact .still (.ok ()) fun _ => rfl

theorem Engages.even (steady : Steady held ready) {act : Action (Listed (Unsteady σ)) (Outcome α)}
    (engages : Engages settings K act) : Action.Even (Akin held ready K settings) act := by
  obtain ⟨body, made, rfl⟩ := engages
  exact (even_connect lawful).onSuccess fun _ => made.even lawful steady

end Messenger.Listed
end Depot
