import Depot.Proofs.Blobs.Refinement
import Depot.Proofs.Clients.Watched

namespace Depot

namespace Watched

variable {σ : Type}

instance [ObjectClient σ] : ObjectClient (Watched σ) where
  isInstalled s := ObjectClient.isInstalled s.service
  openSession arguments := onService (ObjectClient.openSession arguments)
  configure arguments := onService (ObjectClient.configure arguments)
  enter arguments := achieving .opened (ObjectClient.enter arguments)
  leave := achieving .closed ObjectClient.leave
  put bucket key data := asking (ObjectClient.put bucket key data)
  get bucket key := asking (ObjectClient.get bucket key)
  head bucket key := asking (ObjectClient.head bucket key)
  delete bucket keys := asking (ObjectClient.delete bucket keys)
  list bucket start := asking (ObjectClient.list bucket start)

end Watched

namespace Blobs

/-- Whether there is anything to do that needs a client. -/
def Call.needsClient : Call → Bool
  | delete keys => !keys.isEmpty
  | write .. | read _ | contains _ | list _ => true

namespace Bucket

variable {σ α β : Type}

/-- A call on the service that is not noted. -/
theorem unnoted_apply {s : Bucket (Watched σ)} {act : Action σ α} {result : Attempt α} {service : σ}
    (run : act s.service.service = (result, service)) : onService (Watched.onService act) s =
      (result, { s with service := { s.service with service } }) :=
  onService_apply (Action.zoom_apply run)

variable [ObjectClient σ]

/-- The service makes a client when it is asked to. -/
def Opens (settings : Settings.Bucket) (service : σ) : Prop :=
  ∃ first second third, ObjectClient.openSession settings.sessionArguments service = (.ok (), first) ∧
    ObjectClient.configure settings.connectionArguments first = (.ok (), second) ∧
    ObjectClient.enter settings.clientArguments second = (.ok (), third)

/-- A bucket on a watched service, which holds a client while it is open. The service may become any other. -/
def holder : Holder (Bucket (Watched σ)) Call Reply Deed where
  connect := connect
  close := close
  perform call := call.on bucket
  needsClient := Call.needsClient
  holds := isOpen
  log s := s.service.deeds
  deed _ := some
  fresh s := { settings := s.settings, service := s.service }
  Ready s := ObjectClient.isInstalled s.service.service = true ∧ Opens s.settings s.service.service
  Elsewhere s later := ∃ service, later = { s with service := { s.service with service } }

/-- There is something to leave just when there is a client. -/
def Sound (s : Bucket (Watched σ)) : Prop := s.isPrepared = s.isOpen

variable {s later : Bucket (Watched σ)} {deeds : List Deed}

theorem does_of_deeds (noted : later.service.deeds = s.service.deeds ++ deeds) : holder.Does s deeds later :=
  ⟨⟨deeds, noted, List.filterMap_some⟩, rfl⟩

/-- A client is opened, or there is none and nothing to leave. -/
theorem openClient_cases (settings : Settings.Bucket) (s : Bucket (Watched σ)) :
    (Opens settings s.service.service ∧ ∃ service, openClient settings s =
      (.ok (), { s with isPrepared := true, service := { service, deeds := s.service.deeds ++ [.opened] } })) ∨
    ¬ Opens settings s.service.service ∧ ∃ fault service, openClient settings s =
      (.error fault, { s with isPrepared := false, service := { s.service with service } }) := by
  -- The states after each step that succeeds.
  let opened (service : σ) : Bucket (Watched σ) := { s with service := { s.service with service } }
  let prepared (service : σ) : Bucket (Watched σ) := { opened service with isPrepared := true }
  unfold openClient
  rcases session : ObjectClient.openSession settings.sessionArguments s.service.service with ⟨fault | _, first⟩
  · refine Or.inr ⟨?_, fault, first, (Action.recover_of_fault (?_ : _ = (_, opened first))).trans rfl⟩
    · rintro ⟨_, _, _, session', -, -⟩
      cases session.symm.trans session'
    · exact Action.bind_of_error (unnoted_apply session)
  rcases configure : ObjectClient.configure settings.connectionArguments first with ⟨fault | _, second⟩
  · refine Or.inr ⟨?_, fault, second, (Action.recover_of_fault (?_ : _ = (_, opened second))).trans rfl⟩
    · rintro ⟨_, _, _, session', configure', -⟩
      cases session.symm.trans session'
      cases configure.symm.trans configure'
    · exact (Action.bind_of_ok (unnoted_apply session)).trans
        (Action.bind_of_error (unnoted_apply (s := opened first) configure))
  rcases enter : ObjectClient.enter settings.clientArguments second with ⟨fault | _, third⟩
  · refine Or.inr ⟨?_, fault, third, (Action.recover_of_fault (?_ : _ = (_, prepared third))).trans rfl⟩
    · rintro ⟨_, _, _, session', configure', enter'⟩
      cases session.symm.trans session'
      cases configure.symm.trans configure'
      cases enter.symm.trans enter'
    · exact (Action.bind_of_ok (unnoted_apply session)).trans
        ((Action.bind_of_ok (unnoted_apply (s := opened first) configure)).trans
          (onService_apply (t := prepared second) (Watched.achieving_of_fault enter)))
  · refine Or.inl ⟨⟨first, second, third, session, configure, enter⟩, third, Action.recover_of_ok ?_⟩
    exact (Action.bind_of_ok (unnoted_apply session)).trans
      ((Action.bind_of_ok (unnoted_apply (s := opened first) configure)).trans
        (onService_apply (t := prepared second) (Watched.achieving_of_ok enter)))

/-- A bucket that is open stays as it is, and one that is not opens a client or fails. -/
theorem connect_cases (sound : Sound s) : ∃ deeds later,
    holder.Does s deeds later ∧ .asked ∉ deeds ∧ Sound later ∧ holder.Tries s deeds later := by
  by_cases already : s.isOpen = true
  · refine ⟨[], s, .refl s, List.not_mem_nil, sound,
      .connected (Or.inl already) (connect_of_open already) already ?_⟩
    rw [show holder.holds s = true from already]
    exact .nil true
  have without : s.isOpen = false := Bool.not_eq_true _ ▸ already
  cases installed : ObjectClient.isInstalled s.service.service with
  | false =>
    have unable : ¬ holder.Ready s := fun ready => Bool.false_ne_true (installed.symm.trans ready.1)
    have absent : ObjectClient.isInstalled s.service = false := installed
    have run : connect s = (.ok (.error (.dependencyUnavailable .blobStorage "aioboto3")), s) := by
      rw [connect, Action.bind_state, if_neg already, absent]
      rfl
    exact ⟨[], s, .refl s, List.not_mem_nil, sound, .failed without unable run without (.nil false)⟩
  | true =>
    have present : ObjectClient.isInstalled s.service = true := installed
    rcases openClient_cases s.settings s with ⟨opens, service, opened⟩ | ⟨unopened, fault, service, failed⟩
    · let service : Watched σ := { service, deeds := s.service.deeds ++ [.opened] }
      let later : Bucket (Watched σ) :=
        { s with service, isOpen := true, isPrepared := true, log := s.log ++ [s.openedEntry] }
      have run : connect s = (.ok (.ok ()), later) := by
        rw [connect, Action.bind_state, if_neg already, present]
        exact Action.reporting_of_ok (Action.bind_of_ok opened)
      refine ⟨[.opened], later, does_of_deeds rfl, by decide, rfl,
        .connected (Or.inr ⟨installed, opens⟩) run rfl ?_⟩
      rw [show holder.holds s = false from without]
      exact .opened (.nil true)
    · let later : Bucket (Watched σ) := { s with isPrepared := false, service := { s.service with service } }
      have unable : ¬ holder.Ready s := fun ready => unopened ready.2
      have run : connect s = (.ok (.error (.connectionFailed s.name (some fault))), later) := by
        rw [connect, Action.bind_state, if_neg already, present]
        exact Action.reporting_of_fault (Action.bind_of_error failed)
      exact ⟨[], later, does_of_deeds (List.append_nil _).symm, List.not_mem_nil, without.symm,
        .failed without unable run without (.nil false)⟩

/-- A request is noted, whatever becomes of it. -/
theorem along_asking (act : Action σ (Except ObjectService.Trouble α)) :
    Action.Along (holder.Asks Sound) (onService (ObjectClient.attempt (Watched.asking act))) := by
  intro s sound
  have noted : (onService (ObjectClient.attempt (Watched.asking act)) s).2 = { s with
      service := { service := (act s.service.service).2, deeds := s.service.deeds ++ [.asked] } } := by
    have asked := Watched.asking_apply act s.service
    rcases answer : (act s.service.service).1 with fault | a <;> rw [answer] at asked
    · exact congrArg Prod.snd (onService_apply (Action.recover_of_fault asked))
    · exact congrArg Prod.snd (onService_apply (Action.recover_of_ok asked))
  rw [noted]
  exact ⟨sound, rfl, [.asked], does_of_deeds rfl, List.forall_mem_singleton.mpr rfl⟩

/-- A call that first asks for a client, and then does nothing with it but to ask it. -/
def Engages (act : Action (Bucket (Watched σ)) (Outcome α)) : Prop :=
  ∃ body, act = connect.onSuccess (fun _ => body) ∧ Action.Along (holder.Asks Sound) body

theorem engages_request (act : Bucket (Watched σ) → Action σ (Except ObjectService.Trouble α))
    (answer : Except ObjectService.Trouble α → Attempt (Outcome β)) :
    Engages (request (fun s => Watched.asking (act s)) answer) :=
  ⟨_, rfl, (Action.Along.still fun _ => rfl).bind fun _ => (along_asking _).bind fun _ => .still fun _ => rfl⟩

theorem along_deleteBatches (batches : List (List String)) :
    Action.Along (holder.Asks Sound) (deleteBatches batches : Action (Bucket (Watched σ)) (Outcome Unit)) := by
  induction batches with
  | nil => exact .still fun _ => rfl
  | cons batch rest ih =>
    refine (Action.Along.still fun _ => rfl).bind fun s => (along_asking _).bind fun answer => ?_
    exact Action.Along.onSuccess (.still fun _ => rfl) fun _ => ih

theorem Engages.answering {act : Action (Bucket (Watched σ)) (Outcome α)} (engages : Engages act)
    (reply : α → Reply) : Engages (Blobs.answering reply act) := by
  obtain ⟨body, rfl, along⟩ := engages
  exact ⟨_, Action.onSuccess_map .., along.bind fun _ => .still fun _ => rfl⟩

theorem engages_call {call : Call} (needs : call.needsClient = true) :
    Engages (call.on (bucket : Blobs (Bucket (Watched σ)))) := by
  cases call with
  | write key data => exact (engages_request (fun s => ObjectClient.put s.name key data) _).answering _
  | read key => exact (engages_request (fun s => ObjectClient.get s.name key) _).answering _
  | contains key => exact (engages_request (fun s => ObjectClient.head s.name key) _).answering _
  | list start =>
    exact (engages_request (fun s => ObjectClient.list s.name (Settings.given? start)) _).answering _
  | delete keys =>
    have deletes : (delete keys : Action (Bucket (Watched σ)) _) = connect.onSuccess fun _ =>
        deleteBatches (ObjectService.chunks batchSize keys) := if_neg (by simpa [Call.needsClient] using needs)
    exact Engages.answering ⟨_, deletes, along_deleteBatches _⟩ _

theorem close_of_open (leaves : ∀ s : σ, (ObjectClient.leave s).1 = .ok ()) (sound : Sound s)
    (opened : s.isOpen = true) : ∃ service, close s = (.ok (), { s with
      isOpen := false, isPrepared := false, service := { service, deeds := s.service.deeds ++ [.closed] } }) := by
  have left : ObjectClient.leave s.service.service = (.ok (), (ObjectClient.leave s.service.service).2) :=
    Prod.ext (leaves _) rfl
  refine ⟨(ObjectClient.leave s.service.service).2, ?_⟩
  rw [close, Action.bind_state, sound, opened]
  exact (Action.bind_of_ok (onService_apply (Watched.achieving_of_ok left))).trans rfl

theorem close_of_closed (sound : Sound s) (without : s.isOpen = false) : close s = (.ok (), s) := by
  have unprepared : s.isPrepared = false := sound.trans without
  rw [close, Action.bind_state, unprepared]
  obtain ⟨settings, isOpen, isPrepared, service, log⟩ := s
  cases without
  cases unprepared
  rfl

theorem close_cases (leaves : ∀ s : σ, (ObjectClient.leave s).1 = .ok ()) (sound : Sound s) :
    ∃ deeds later, close s = (.ok (), later) ∧ holder.Does s deeds later ∧ Sound later ∧ later.isOpen = false ∧
      Orderly s.isOpen deeds false := by
  cases opened : s.isOpen with
  | true =>
    obtain ⟨service, run⟩ := close_of_open leaves sound opened
    exact ⟨[.closed], _, run, does_of_deeds rfl, rfl, rfl, .closed (.nil false)⟩
  | false => exact ⟨[], s, close_of_closed sound opened, .refl s, sound, opened, .nil false⟩

theorem holder_lawful (leaves : ∀ s : σ, (ObjectClient.leave s).1 = .ok ()) :
    (holder (σ := σ)).Lawful Sound where
  fresh s := ⟨rfl, rfl⟩
  elsewhere := by
    rintro s _ ⟨service, rfl⟩ sound
    exact ⟨sound, rfl⟩
  connected := connect_cases
  performs {s later call} needs connects := by
    obtain ⟨body, same, along⟩ := engages_call (σ := σ) needs
    have run : holder.perform call s = body later := (congrFun same s).trans (Action.onSuccess_of_ok connects)
    rw [run]
    exact along later
  fails {s later e call} needs failed := by
    obtain ⟨body, same, -⟩ := engages_call (σ := σ) needs
    exact (congrFun same s).trans (Action.onSuccess_of_error failed)
  idles {s call} idle := by
    cases call with
    | delete keys =>
      cases keys with
      | nil => rfl
      | cons key rest => cases idle
    | _ => cases idle
  closed := close_cases leaves
  closed_again := close_of_closed

end Bucket
end Blobs
end Depot
