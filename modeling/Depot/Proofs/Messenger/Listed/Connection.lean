import Depot.Messenger.Listed
import Depot.Proofs.Action
import Depot.Proofs.ListClient

namespace Depot.Messenger.Listed

open ListClient (Data Lawful Request)

namespace Key

variable {name channel other : String}

theorem registry_ne_pending : registry name ≠ pending name channel := by
  intro same
  have letters := congrArg String.toList same
  simp [registry, pending] at letters

theorem registry_ne_inFlight : registry name ≠ inFlight name channel := by
  intro same
  have letters := congrArg String.toList same
  simp [registry, inFlight] at letters

theorem pending_ne_inFlight : pending name channel ≠ inFlight name other := by
  intro same
  have letters := congrArg String.toList same
  simp [pending, inFlight] at letters

theorem pending_inj : pending name channel = pending name other ↔ channel = other :=
  String.append_right_inj _

theorem inFlight_inj : inFlight name channel = inFlight name other ↔ channel = other :=
  String.append_right_inj _

theorem pending_injective (name : String) : Function.Injective (pending name) := fun _ _ => pending_inj.mp

theorem inFlight_injective (name : String) : Function.Injective (inFlight name) := fun _ _ => inFlight_inj.mp

end Key

variable {σ α : Type}

section

variable {s later : Listed σ} (same : later.settings = s.settings)
include same

theorem registry_congr : later.registry = s.registry := by
  rw [registry, same]
  rfl

theorem pendingOf_congr (channel : String) : later.pendingOf channel = s.pendingOf channel := by
  rw [pendingOf, same]
  rfl

theorem inFlightOf_congr (channel : String) : later.inFlightOf channel = s.inFlightOf channel := by
  rw [inFlightOf, same]
  rfl

end

theorem onServer_apply {act : Action σ α} {s : Listed σ} {result : Attempt α} {server : σ}
    (run : act s.server = (result, server)) : onServer act s = (result, { s with server }) :=
  Action.zoom_apply run

theorem onServer_eq_ok {act : Action σ α} {s later : Listed σ} {a : α} (run : onServer act s = (.ok a, later)) :
    ∃ server, act s.server = (.ok a, server) ∧ later = { s with server } :=
  Action.zoom_eq_ok run

variable [ListClient σ] {s later : Listed σ}

/-- A client is made for these arguments. -/
structure Opens (s : Listed σ) (arguments : List (String × Value)) : Prop where
  without : ¬ s.isOpen = true
  installed : ListClient.isInstalled s.server = true
  made : s.settings.clientArguments = .ok arguments

/-- A client that was made does not answer, and it cannot be closed for this fault. -/
def Strands (s : Listed σ) (fault : Fault) : Prop :=
  ∃ arguments first second third silence, s.Opens arguments ∧
    ListClient.openClient arguments s.server = (.ok (), first) ∧
    ListClient.ping first = (.error silence, second) ∧ ListClient.closeClient second = (.error fault, third)

/-- How the attempt ends to have a client, and what it leaves. -/
inductive Connecting (s : Listed σ) : Attempt (Outcome Unit) × Listed σ → Prop
  | already (there : s.isOpen = true) : Connecting s (.ok (.ok ()), s)
  | missing (without : ¬ s.isOpen = true) (absent : ¬ ListClient.isInstalled s.server = true) :
      Connecting s (.ok (.error (.dependencyUnavailable .messaging "redis")), s)
  | unmade {fault : Fault} (without : ¬ s.isOpen = true) (installed : ListClient.isInstalled s.server = true)
      (unmade : s.settings.clientArguments = .error fault) :
      Connecting s (.ok (.error (transport "connect" none fault)), s)
  | refused {arguments : List (String × Value)} {fault : Fault} {server : σ} (opens : s.Opens arguments)
      (opening : ListClient.openClient arguments s.server = (.error fault, server)) :
      Connecting s (.ok (.error (transport "connect" none fault)), { s with server })
  | opened {arguments : List (String × Value)} {first server : σ} (opens : s.Opens arguments)
      (opening : ListClient.openClient arguments s.server = (.ok (), first))
      (pinging : ListClient.ping first = (.ok (), server)) :
      Connecting s
        (.ok (.ok ()), { s with server, isOpen := true, log := s.log ++ [connectedEntry s.settings] })
  | closed {arguments : List (String × Value)} {first second server : σ} {silence : Fault}
      (opens : s.Opens arguments) (opening : ListClient.openClient arguments s.server = (.ok (), first))
      (pinging : ListClient.ping first = (.error silence, second))
      (closing : ListClient.closeClient second = (.ok (), server)) :
      Connecting s (.ok (.error (transport "connect" none silence)), { s with server })
  | stranded {arguments : List (String × Value)} {first second server : σ} {silence fault : Fault}
      (opens : s.Opens arguments) (opening : ListClient.openClient arguments s.server = (.ok (), first))
      (pinging : ListClient.ping first = (.error silence, second))
      (closing : ListClient.closeClient second = (.error fault, server)) :
      Connecting s (.error fault, { s with server })

theorem connect_of_open (already : s.isOpen = true) : connect s = (.ok (.ok ()), s) := by
  rw [connect, Action.bind_state, if_pos already]
  rfl

theorem connect_of_missing (without : ¬ s.isOpen = true) (absent : ¬ ListClient.isInstalled s.server = true) :
    connect s = (.ok (.error (.dependencyUnavailable .messaging "redis")), s) := by
  rw [connect, Action.bind_state, if_neg without, if_pos (by simpa using absent)]
  rfl

theorem openClient_of_made {arguments : List (String × Value)} (made : s.settings.clientArguments = .ok arguments)
    {server : σ} (opening : ListClient.openClient arguments s.server = (.ok (), server)) :
    openClient s.settings s = (.ok (.ok ()), { s with server }) := by
  refine Action.reporting_of_ok ?_
  rw [made]
  exact (Action.bind_of_ok rfl).trans ((Action.bind_of_ok (onServer_apply opening)).trans rfl)

theorem openClient_of_unmade {fault : Fault} (unmade : s.settings.clientArguments = .error fault) :
    openClient s.settings s = (.ok (.error (transport "connect" none fault)), s) := by
  refine Action.reporting_of_fault ?_
  rw [unmade]
  exact Action.bind_of_error rfl

theorem openClient_of_refused {arguments : List (String × Value)}
    (made : s.settings.clientArguments = .ok arguments) {fault : Fault} {server : σ}
    (opening : ListClient.openClient arguments s.server = (.error fault, server)) :
    openClient s.settings s = (.ok (.error (transport "connect" none fault)), { s with server }) := by
  refine Action.reporting_of_fault ?_
  rw [made]
  exact (Action.bind_of_ok rfl).trans (Action.bind_of_error (onServer_apply opening))

/-- A client that answers is kept. -/
theorem probe_of_answered {server : σ} (pinging : ListClient.ping s.server = (.ok (), server)) :
    probe s = (.ok (.ok ()), { s with server }) :=
  Action.recover_of_ok ((Action.bind_of_ok (onServer_apply pinging)).trans rfl)

/-- One that does not is closed, and then its silence is reported unless that fails as well. -/
theorem probe_of_silent {server : σ} {silence : Fault}
    (pinging : ListClient.ping s.server = (.error silence, server)) :
    probe s = ((onServer ListClient.closeClient >>= fun _ => pure (.error (transport "connect" none silence))) :
      Action (Listed σ) (Outcome Unit)) { s with server } :=
  Action.recover_of_fault (Action.bind_of_error (onServer_apply pinging))

theorem connect_cases (s : Listed σ) : Connecting s (connect s) := by
  by_cases already : s.isOpen = true
  · rw [connect_of_open already]
    exact .already already
  by_cases installed : ListClient.isInstalled s.server = true
  swap
  · rw [connect_of_missing already installed]
    exact .missing already installed
  have start : connect s = (openClient s.settings).onSuccess (fun _ => probe.onSuccess fun _ => do
      .update fun s => { s with isOpen := true, log := s.log ++ [connectedEntry s.settings] }
      return .ok ()) s := by
    rw [connect, Action.bind_state, if_neg already, if_neg (by simpa using installed)]
  rw [start]
  cases made : s.settings.clientArguments with
  | error fault =>
    rw [Action.onSuccess_of_error (openClient_of_unmade made)]
    exact .unmade already installed made
  | ok arguments =>
    have opens : s.Opens arguments := ⟨already, installed, made⟩
    rcases opening : ListClient.openClient arguments s.server with ⟨fault | _, first⟩
    · rw [Action.onSuccess_of_error (openClient_of_refused made opening)]
      exact .refused opens opening
    rw [Action.onSuccess_of_ok (openClient_of_made made opening)]
    rcases pinging : ListClient.ping first with ⟨silence | _, second⟩
    · have silent := probe_of_silent (s := { s with server := first }) pinging
      rcases closing : ListClient.closeClient second with ⟨fault | _, third⟩
      · rw [Action.onSuccess_of_fault (silent.trans (Action.bind_of_error (onServer_apply closing)))]
        exact .stranded opens opening pinging closing
      · rw [Action.onSuccess_of_error (silent.trans ((Action.bind_of_ok (onServer_apply closing)).trans rfl))]
        exact .closed opens opening pinging closing
    · rw [Action.onSuccess_of_ok (probe_of_answered pinging)]
      exact .opened opens opening pinging

namespace Connecting

variable {out : Attempt (Outcome Unit) × Listed σ}

theorem settings (connecting : Connecting s out) : out.2.settings = s.settings := by
  cases connecting <;> rfl

theorem ids (connecting : Connecting s out) : out.2.ids = s.ids := by
  cases connecting <;> rfl

theorem isOpen (connecting : Connecting s out) (done : out.1 = .ok (.ok ())) : out.2.isOpen = true := by
  cases connecting with
  | already there => exact there
  | opened => rfl
  | _ => cases done

end Connecting

/-- The attempt is interrupted exactly if it leaves a client behind that can neither be asked nor closed. -/
theorem connect_eq_error_iff {fault : Fault} : (connect s).1 = .error fault ↔ s.Strands fault := by
  rcases run : connect s with ⟨result, later⟩
  have connecting := connect_cases s
  rw [run] at connecting
  constructor
  · rintro rfl
    cases connecting with
    | stranded opens opening pinging closing => exact ⟨_, _, _, _, _, opens, opening, pinging, closing⟩
  · rintro ⟨arguments, first, second, third, silence, opens, opening, pinging, closing⟩
    have made {arguments' : List (String × Value)} (opens' : s.Opens arguments') : arguments' = arguments :=
      Except.ok.inj (opens'.made.symm.trans opens.made)
    cases connecting with
    | already there => exact absurd there opens.without
    | missing _ absent => exact absurd opens.installed absent
    | unmade _ _ unmade => cases unmade.symm.trans opens.made
    | refused opens' opening' =>
      cases made opens'
      cases opening.symm.trans opening'
    | opened opens' opening' pinging' =>
      cases made opens'
      cases opening.symm.trans opening'
      cases pinging.symm.trans pinging'
    | closed opens' opening' pinging' closing' =>
      cases made opens'
      cases opening.symm.trans opening'
      cases pinging.symm.trans pinging'
      cases closing.symm.trans closing'
    | stranded opens' opening' pinging' closing' =>
      cases made opens'
      cases opening.symm.trans opening'
      cases pinging.symm.trans pinging'
      cases closing.symm.trans closing'
      rfl

/-- A client is there, or the arguments for one can be made. -/
def Reachable (s : Listed σ) : Prop :=
  s.isOpen = true ∨ ∃ arguments, s.settings.clientArguments = .ok arguments

theorem reachable_of_connect (run : connect s = (.ok (.ok ()), later)) : s.Reachable := by
  have connecting := connect_cases s
  rw [run] at connecting
  cases connecting with
  | already there => exact .inl there
  | opened opens => exact .inr ⟨_, opens.made⟩

/-- Calls that are not about the data may have been made to the server. -/
structure Rests (held : σ → Data) (ready : σ → Prop) (s later : Listed σ) : Prop where
  settings : later.settings = s.settings
  ids : later.ids = s.ids
  data : held later.server = held s.server
  ready : ready s.server → ready later.server

section

variable {held : σ → Data} {ready : σ → Prop} (lawful : Lawful held ready)
include lawful

theorem rests_connect (s : Listed σ) : Rests held ready s (connect s).2 := by
  have connecting := connect_cases s
  suffices kept : held (connect s).2.server = held s.server ∧ (ready s.server → ready (connect s).2.server) from
    ⟨connecting.settings, connecting.ids, kept.1, kept.2⟩
  generalize connect s = out at connecting
  cases connecting with
  | already | missing | unmade => exact ⟨rfl, id⟩
  | refused _ opening =>
    have opened := opening ▸ lawful.opened _ s.server
    exact ⟨opened.data, fun start => (opened.answered start).2⟩
  | @opened _ first _ _ opening pinging =>
    have opened := opening ▸ lawful.opened _ s.server
    have pinged := pinging ▸ lawful.pinged first
    exact ⟨pinged.data.trans opened.data, fun start => (pinged.answered (opened.answered start).2).2⟩
  | @closed _ first second _ _ _ opening pinging closing | @stranded _ first second _ _ _ _ opening pinging closing =>
    have opened := opening ▸ lawful.opened _ s.server
    have pinged := pinging ▸ lawful.pinged first
    have closed := closing ▸ lawful.closed second
    exact ⟨closed.data.trans (pinged.data.trans opened.data), fun start =>
      (closed.answered (pinged.answered (opened.answered start).2).2).2⟩

theorem rests_close (s : Listed σ) : Rests held ready s (close s).2 := by
  by_cases opened : s.isOpen = true
  swap
  · rw [close, Action.bind_state, if_neg opened]
    exact ⟨rfl, rfl, rfl, id⟩
  have stays := lawful.closed s.server
  rw [close, Action.bind_state, if_pos opened]
  rcases run : ListClient.closeClient s.server with ⟨fault | _, server⟩ <;> rw [run] at stays
  · rw [Action.bind_of_error (onServer_apply run)]
    exact ⟨rfl, rfl, stays.data, fun start => (stays.answered start).2⟩
  · rw [Action.bind_of_ok (onServer_apply run)]
    exact ⟨rfl, rfl, stays.data, fun start => (stays.answered start).2⟩

/-- Where no call fails there is a client afterwards, unless its arguments cannot be made. -/
theorem connect_of_ready (start : ready s.server) (reachable : s.Reachable) : (connect s).1 = .ok (.ok ()) := by
  have connecting := connect_cases s
  generalize connect s = out at connecting
  cases connecting with
  | already | opened => rfl
  | missing _ absent => exact absurd (lawful.installed start) absent
  | unmade without _ unmade =>
    obtain ⟨arguments, made⟩ := reachable.resolve_left without
    cases unmade.symm.trans made
  | refused _ opening => cases ((opening ▸ lawful.opened _ s.server).answered start).1
  | @closed _ first _ _ _ _ opening pinging | @stranded _ first _ _ _ _ _ opening pinging =>
    have opened := opening ▸ lawful.opened _ s.server
    cases ((pinging ▸ lawful.pinged first).answered (opened.answered start).2).1

end

theorem not_ready_of_strands {held : σ → Data} {ready : σ → Prop} (lawful : Lawful held ready) {fault : Fault}
    (strands : s.Strands fault) : ¬ ready s.server := by
  intro start
  obtain ⟨arguments, _, _, _, _, opens, -⟩ := id strands
  cases (connect_eq_error_iff.mpr strands).symm.trans (connect_of_ready lawful start (.inr ⟨_, opens.made⟩))

/-- The messenger with a client, after calls that were not about the data. -/
structure Reached (held : σ → Data) (ready : σ → Prop) (s later : Listed σ) : Prop extends
    Rests held ready s later where
  isOpen : later.isOpen = true

section

variable {held : σ → Data} {ready : σ → Prop} (lawful : Lawful held ready)
include lawful

theorem reached_of_connect (run : connect s = (.ok (.ok ()), later)) : Reached held ready s later := by
  have rests := rests_connect lawful s
  have isOpen := (connect_cases s).isOpen (congrArg Prod.fst run)
  rw [run] at rests isOpen
  exact ⟨rests, isOpen⟩

theorem exists_reached (start : ready s.server) (reachable : s.Reachable) :
    ∃ later, connect s = (.ok (.ok ()), later) ∧ Reached held ready s later := by
  have done := connect_of_ready lawful start reachable
  rcases run : connect s with ⟨result, later⟩
  rw [run] at done
  cases done
  exact ⟨later, rfl, reached_of_connect lawful run⟩

/-- A request to the server of a messenger, where no call fails. -/
theorem ask_of_ready {r : Request} (full : r.Full) (start : ready s.server) {answer : r.Answer} {data : Data}
    (run : r.run (held s.server) = some (answer, data)) :
    ∃ told server, onServer (ListClient.request r) s = (.ok told, { s with server }) ∧ r.Same told answer ∧
      held server = data ∧ ready server := by
  obtain ⟨told, server, asked, same, left, stays⟩ := lawful.request_of_ready full start run
  exact ⟨told, server, onServer_apply asked, same, left, stays⟩

end

theorem close_of_closed (without : ¬ s.isOpen = true) : close s = (.ok (), s) := by
  rw [close, Action.bind_state, if_neg without]
  rfl

/-- How messages are asked for, and what is done about them if there are to be any and the channel is known. -/
def asking (operation channel : String) (limit : Int)
    (next : Listed σ → Action (Listed σ) (Outcome (List Message))) : Action (Listed σ) (Outcome (List Message)) :=
  connect.onSuccess fun _ => do
    if limit ≤ 0 then return .ok []
    let s ← .state
    Action.reporting (transport operation (some channel)) <| (ifKnown channel).onSuccess fun _ => next s

theorem receive_eq_asking (channel : String) (limit : Int) :
    ∃ next, (listed : Messenger (Listed σ)).receive channel limit = asking "receive" channel limit next := ⟨_, rfl⟩

theorem peek_eq_asking (channel : String) (limit : Int) :
    ∃ next, (listed : Messenger (Listed σ)).peek channel limit = asking "peek" channel limit next := ⟨_, rfl⟩

/-- The channel is not looked for unless messages are wanted. -/
theorem asking_of_connected {opened : Listed σ} (connected : connect s = (.ok (.ok ()), opened))
    (operation channel : String) (limit : Int) (next : Listed σ → Action (Listed σ) (Outcome (List Message))) :
    asking operation channel limit next s = if limit ≤ 0 then (.ok (.ok []), opened) else
      ((ifKnown channel).onSuccess fun _ => next opened).reporting (transport operation (some channel)) opened := by
  refine (Action.onSuccess_of_ok connected).trans ?_
  split <;> rfl

theorem asking_of_none (opened : s.isOpen = true) {limit : Int} (unwanted : limit ≤ 0) (operation channel : String)
    (next : Listed σ → Action (Listed σ) (Outcome (List Message))) :
    asking operation channel limit next s = (.ok (.ok []), s) :=
  (asking_of_connected (connect_of_open opened) ..).trans (if_pos unwanted)

end Depot.Messenger.Listed
