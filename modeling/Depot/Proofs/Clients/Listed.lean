import Depot.Proofs.Clients.Bucket
import Depot.Proofs.ListServer
import Depot.Proofs.Messenger.Listed.Requests

namespace Depot

instance {σ : Type} [ListClient σ] : ListClient (Watched σ) where
  isInstalled s := ListClient.isInstalled s.service
  openClient arguments := Watched.achieving .opened (ListClient.openClient arguments)
  ping := Watched.onService ListClient.ping
  closeClient := Watched.achieving .closed ListClient.closeClient
  request r := Watched.asking (ListClient.request r)

theorem Watched.ping_apply {σ : Type} [ListClient σ] (s : Watched σ) : ListClient.ping s =
    ((ListClient.ping s.service).1, { s with service := (ListClient.ping s.service).2 }) := rfl

namespace Messenger.Listed

variable {σ : Type} [ListClient σ]

/-- The server makes a client when it is asked to, and answers it. -/
def Welcomes (settings : Settings.Server) (server : σ) : Prop :=
  ∃ arguments first second, settings.clientArguments = .ok arguments ∧
    ListClient.openClient arguments server = (.ok (), first) ∧ ListClient.ping first = (.ok (), second)

/-- A messenger with a watched server, which holds a client while it is open. The server may become any other. -/
def holder : Holder (Listed (Watched σ)) Call Reply Deed where
  connect := connect
  close := close
  perform call := call.on listed
  needsClient := Call.needsClient
  holds := isOpen
  log s := s.server.deeds
  deed _ := some
  fresh s := { settings := s.settings, ids := s.ids, server := s.server }
  Ready s := ListClient.isInstalled s.server.service = true ∧ Welcomes s.settings s.server.service
  Elsewhere s later := ∃ service, later = { s with server := { s.server with service } }

variable {s later : Listed (Watched σ)} {deeds : List Deed}

theorem does_of_deeds (noted : later.server.deeds = s.server.deeds ++ deeds) : holder.Does s deeds later :=
  ⟨⟨deeds, noted, List.filterMap_some⟩, rfl⟩

section

variable {arguments : List (String × Value)} {first : Watched σ}

theorem welcomes_of_opened (opens : s.Opens arguments)
    (opening : ListClient.openClient arguments s.server = (.ok (), first)) {second : Watched σ}
    (pinging : ListClient.ping first = (.ok (), second)) :
    Welcomes s.settings s.server.service ∧ second.deeds = s.server.deeds ++ [.opened] := by
  obtain ⟨service, inner, rfl⟩ := Watched.achieving_eq_ok (ListClient.openClient arguments) opening
  obtain ⟨answers, rfl⟩ := Prod.mk.injEq .. ▸ (Watched.ping_apply _).symm.trans pinging
  exact ⟨⟨arguments, service, _, opens.made, inner, Prod.ext answers rfl⟩, rfl⟩

theorem not_welcomes_of_refused (opens : s.Opens arguments) {fault : Fault}
    (opening : ListClient.openClient arguments s.server = (.error fault, first)) :
    ¬ Welcomes s.settings s.server.service ∧ first.deeds = s.server.deeds := by
  obtain ⟨service, refused, rfl⟩ := Watched.achieving_eq_error (ListClient.openClient arguments) opening
  refine ⟨?_, rfl⟩
  rintro ⟨arguments', _, _, made, opening, -⟩
  cases opens.made.symm.trans made
  cases refused.symm.trans opening

/-- A server that does not answer its client lets none be had. -/
theorem not_welcomes_of_silent (opens : s.Opens arguments)
    (opening : ListClient.openClient arguments s.server = (.ok (), first)) {silence : Fault} {second : Watched σ}
    (pinging : ListClient.ping first = (.error silence, second)) :
    ¬ Welcomes s.settings s.server.service ∧ second.deeds = s.server.deeds ++ [.opened] := by
  obtain ⟨service, inner, rfl⟩ := Watched.achieving_eq_ok (ListClient.openClient arguments) opening
  obtain ⟨fails, rfl⟩ := Prod.mk.injEq .. ▸ (Watched.ping_apply _).symm.trans pinging
  refine ⟨?_, rfl⟩
  rintro ⟨arguments', _, _, made, opening, answered⟩
  cases opens.made.symm.trans made
  cases inner.symm.trans opening
  cases fails.symm.trans (congrArg Prod.fst answered)

end

section

variable (closes : ∀ s : σ, (ListClient.closeClient s).1 = .ok ())
include closes

/-- A messenger that is open stays as it is, and one that is not opens a client or fails. -/
theorem tries_connect (s : Listed (Watched σ)) :
    ∃ deeds later, holder.Does s deeds later ∧ .asked ∉ deeds ∧ True ∧ holder.Tries s deeds later := by
  have connecting := connect_cases s
  generalize run : connect s = out at connecting
  have shut (without : ¬ s.isOpen = true) : holder.holds s = false := Bool.not_eq_true _ ▸ without
  cases connecting with
  | already there =>
    refine ⟨[], s, .refl s, List.not_mem_nil, trivial, .connected (.inl there) run there ?_⟩
    rw [show holder.holds s = true from there]
    exact .nil true
  | missing without absent =>
    have unable : ¬ holder.Ready s := fun ready => absent ready.1
    exact ⟨[], s, .refl s, List.not_mem_nil, trivial,
      .failed (shut without) unable run (shut without) (.nil false)⟩
  | unmade without _ unmade =>
    have unable : ¬ holder.Ready s := by
      rintro ⟨-, _, _, _, made, -⟩
      cases unmade.symm.trans made
    exact ⟨[], s, .refl s, List.not_mem_nil, trivial,
      .failed (shut without) unable run (shut without) (.nil false)⟩
  | @refused _ _ server opens opening =>
    obtain ⟨unwelcome, same⟩ := not_welcomes_of_refused opens opening
    let later := { s with server }
    refine ⟨[], later, does_of_deeds (same.trans (List.append_nil _).symm), List.not_mem_nil, trivial, ?_⟩
    exact .failed (shut opens.without) (fun ready => unwelcome ready.2) run (shut opens.without) (.nil false)
  | @opened _ _ server opens opening pinging =>
    obtain ⟨welcome, noted⟩ := welcomes_of_opened opens opening pinging
    let later := { s with server, isOpen := true, log := s.log ++ [connectedEntry s.settings] }
    refine ⟨[.opened], later, does_of_deeds noted, by decide, trivial,
      .connected (.inr ⟨opens.installed, welcome⟩) run rfl ?_⟩
    rw [shut opens.without]
    exact .opened (.nil true)
  | @closed _ _ second _ _ opens opening pinging closing =>
    obtain ⟨unwelcome, noted⟩ := not_welcomes_of_silent opens opening pinging
    obtain ⟨service, -, rfl⟩ := Watched.achieving_eq_ok ListClient.closeClient closing
    let later := { s with server := ({ service, deeds := second.deeds ++ [Deed.closed] } : Watched σ) }
    refine ⟨[.opened, .closed], later, does_of_deeds ?_, by decide, trivial, ?_⟩
    · exact (congrArg (· ++ [Deed.closed]) noted).trans (List.append_assoc ..)
    · exact .failed (shut opens.without) (fun ready => unwelcome ready.2) run (shut opens.without)
        (.opened (.closed (.nil false)))
  | stranded _ _ _ closing =>
    obtain ⟨service, closing, -⟩ := Watched.achieving_eq_error ListClient.closeClient closing
    cases (closes _).symm.trans (congrArg Prod.fst closing)

theorem close_cases (s : Listed (Watched σ)) :
    ∃ deeds later, close s = (.ok (), later) ∧ holder.Does s deeds later ∧ True ∧ later.isOpen = false ∧
      Orderly s.isOpen deeds false := by
  cases opened : s.isOpen with
  | true =>
    have closed : ListClient.closeClient s.server.service = (.ok (), (ListClient.closeClient s.server.service).2) :=
      Prod.ext (closes _) rfl
    refine ⟨[.closed], { s with
      isOpen := false
      server := { service := (ListClient.closeClient s.server.service).2, deeds := s.server.deeds ++ [.closed] } },
      ?_, does_of_deeds rfl, trivial, rfl, .closed (.nil false)⟩
    rw [close, Action.bind_state, if_pos opened]
    exact (Action.bind_of_ok (onServer_apply (Watched.achieving_of_ok closed))).trans rfl
  | false => exact ⟨[], s, close_of_closed (by simp [opened]), .refl s, trivial, opened, .nil false⟩

theorem holder_lawful : (holder (σ := σ)).Lawful fun _ => True where
  fresh s := ⟨trivial, rfl⟩
  elsewhere := by
    rintro s _ ⟨service, rfl⟩ -
    exact ⟨trivial, rfl⟩
  connected {s} _ := tries_connect closes s
  performs {s later call} needs connects := by
    obtain ⟨body, made, same⟩ := Call.engages (σ := Watched σ) needs s.settings
    have run : holder.perform call s = body later := (congrFun same s).trans (Action.onSuccess_of_ok connects)
    have settings : later.settings = s.settings := by
      have connecting := (connect_cases s).settings
      rwa [show connect s = _ from connects] at connecting
    have asked (r : ListClient.Request) (server : Watched σ) :
        Watched.Asked server (ListClient.request r server).2 := Watched.asked_asking (ListClient.request r) server
    obtain ⟨-, isOpen, deeds, noted, only⟩ := made.through (fun {r} _ server => asked r server) settings
    rw [run]
    exact fun _ => ⟨trivial, isOpen, deeds, does_of_deeds noted, only⟩
  fails {s later e call} needs failed := by
    obtain ⟨body, -, same⟩ := Call.engages (σ := Watched σ) needs s.settings
    exact (congrFun same s).trans (Action.onSuccess_of_error failed)
  idles {s call} idle := by
    have nothing : holder.perform call = pure (.ok .done) := Call.idle (σ := Watched σ) idle
    rw [nothing]
    rfl
  closed {s} _ := close_cases closes s
  closed_again _ without := close_of_closed (by simp [show isOpen _ = false from without])

end
end Messenger.Listed

/-- What keeps blobs in a bucket of any service whose clients can always be left, and what carries messages over any
server whose clients can always be closed, are careful with their clients, however the services behave. -/
theorem careful_with_clients :
    (∀ (σ : Type) [ObjectClient σ], (∀ s : σ, (ObjectClient.leave s).1 = .ok ()) →
      (Blobs.Bucket.holder (σ := σ)).Careful) ∧
    ∀ (σ : Type) [ListClient σ], (∀ s : σ, (ListClient.closeClient s).1 = .ok ()) →
      (Messenger.Listed.holder (σ := σ)).Careful :=
  ⟨fun _ _ leaves => (Blobs.Bucket.holder_lawful leaves).careful,
    fun _ _ closes => (Messenger.Listed.holder_lawful closes).careful⟩

def unreachable : Blobs.Bucket (Watched ObjectService) where
  settings := { name := "b" }
  service := { service := { client := .entryFails } }

def reachable : Messenger.Listed (Watched ListServer) where
  settings := {}
  server := { service := {} }

/-- The first call fails, and the second one opens a client and asks it. A messenger asks its client, closes it and
has none. -/
theorem careful_with_clients_unreachable :
    (∃ s, (Blobs.Bucket.holder (σ := ObjectService)).Reaches [.opened, .asked] s ∧ s.isOpen = true ∧
      [Deed.opened, .asked].count .opened = [Deed.opened, .asked].count .closed + s.isOpen.toNat) ∧
    ∃ s, (Messenger.Listed.holder (σ := ListServer)).Reaches [.opened, .asked, .closed] s ∧ s.isOpen = false ∧
      [Deed.opened, .asked, .closed].count .opened =
        [Deed.opened, .asked, .closed].count .closed + s.isOpen.toNat := by
  constructor
  · have failed := (Holder.Reaches.fresh (h := Blobs.Bucket.holder (σ := ObjectService)) unreachable).step
      (.call (.read "a"))
    obtain ⟨s, reached, opened⟩ :
        ∃ s, (Blobs.Bucket.holder (σ := ObjectService)).Reaches [.opened, .asked] s ∧ s.isOpen = true :=
      ⟨_, (failed.elsewhere ⟨{ client := .ready }, rfl⟩).step (.call (.read "a")), rfl⟩
    exact ⟨s, reached, opened, (careful_with_clients.1 ObjectService fun _ => rfl).balanced reached⟩
  · have asked := (Holder.Reaches.fresh (h := Messenger.Listed.holder (σ := ListServer)) reachable).step
      (.call .channels)
    obtain ⟨s, reached, closed⟩ :
        ∃ s, (Messenger.Listed.holder (σ := ListServer)).Reaches [.opened, .asked, .closed] s ∧ s.isOpen = false :=
      ⟨_, asked.step .close, rfl⟩
    exact ⟨s, reached, closed, (careful_with_clients.2 ListServer fun _ => rfl).balanced reached⟩

end Depot
