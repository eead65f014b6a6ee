import Depot.Proofs.Messenger.Listed.Clearing
import Depot.Proofs.Messenger.Listed.Layout
import Depot.Proofs.Messenger.Listed.Registry

namespace Depot.Messenger.Listed

open ListClient (Data Lawful Request Write setAt)
open ListClient.Request (fieldOf)

variable {σ : Type}

/-- A messenger reaches a server whose calls do not fail, and which holds a view. -/
structure Keeps (held : σ → Data) (ready : σ → Prop) (v : View) (s : Listed σ) : Prop where
  start : ready s.server
  reachable : s.Reachable
  sound : v.Sound
  laid : v.LaidOut s.settings.namespaceName (held s.server)

namespace Keeps

variable {held : σ → Data} {ready : σ → Prop} {v w : View} {s later : Listed σ}

theorem reached (keeps : s.Keeps held ready v) (reached : Reached held ready s later) :
    later.Keeps held ready v where
  start := reached.ready keeps.start
  reachable := .inl reached.isOpen
  sound := keeps.sound
  laid := by
    rw [reached.settings, reached.data]
    exact keeps.laid

theorem known_iff (keeps : s.Keeps held ready v) (channel : String) :
    s.IsRegistered held channel ↔ channel ∈ v.names := by
  obtain ⟨members, there, keys⟩ := keeps.laid.registry
  rw [IsRegistered, ListClient.membersAt_eq (show setAt s.registry (held s.server) = _ from there), keys,
    View.LaidOut.mem_encode]

theorem waiting_eq (keeps : s.Keeps held ready v) (channel : String) :
    s.waiting held channel = (v.queue channel).map Envelope.form :=
  ListClient.itemsAt_eq (keeps.laid.pending channel)

theorem fits (keeps : s.Keeps held ready v) {channel : String} {m : Message} (member : m ∈ v.queue channel) :
    Envelope.Fits m := (keeps.sound.queued channel m member).2.of_receive

theorem legible (keeps : s.Keeps held ready v) (channel : String) : s.Legible held ready channel where
  start := keeps.start
  reachable := keeps.reachable
  list := Option.isSome_of_eq_some (keeps.laid.pending channel)
  hash := by
    obtain ⟨fields, there, -⟩ := keeps.laid.inFlight channel
    exact Option.isSome_of_eq_some there
  read raw member := by
    rw [keeps.waiting_eq] at member
    obtain ⟨m, inside, rfl⟩ := List.mem_map.mp member
    exact ⟨_, Envelope.read_form (keeps.fits inside)⟩

section

variable [ListClient σ] (lawful : Lawful held ready)
include lawful

/-- A request that is carried out on the data, and what it leaves of them. -/
theorem ask (keeps : s.Keeps held ready v) (isOpen : s.isOpen = true) {r : Request} (full : r.Full)
    {answer : r.Answer} {data : Data} (run : r.run (held s.server) = some (answer, data)) (sound : w.Sound)
    (laid : w.LaidOut s.settings.namespaceName data) :
    ∃ told server, onServer (ListClient.request r) s = (.ok told, { s with server }) ∧ r.Same told answer ∧
      Keeps held ready w { s with server } := by
  obtain ⟨told, server, asked, same, left, stays⟩ := ask_of_ready lawful full keeps.start run
  exact ⟨told, server, asked, same, stays, .inl isOpen, sound, left ▸ laid⟩

theorem opened (keeps : s.Keeps held ready v) :
    ∃ opened, connect s = (.ok (.ok ()), opened) ∧ opened.isOpen = true ∧ opened.ids = s.ids ∧
      opened.Keeps held ready v := by
  obtain ⟨opened, run, reached⟩ := exists_reached lawful keeps.start keeps.reachable
  exact ⟨opened, run, reached.isOpen, reached.ids, keeps.reached reached⟩

theorem connected {α : Type} (keeps : s.Keeps held ready v) (operation : String) (channel : Option String)
    (act : Listed σ → Action (Listed σ) (Outcome α)) :
    ∃ opened, opened.isOpen = true ∧ opened.ids = s.ids ∧ opened.Keeps held ready v ∧
      Listed.connected operation channel act s =
        (act opened).reporting (transport operation channel) opened := by
  obtain ⟨opened, run, isOpen, ids, keeps⟩ := keeps.opened lawful
  exact ⟨opened, isOpen, ids, keeps, (Action.onSuccess_of_ok run).trans rfl⟩

theorem createChannels (keeps : s.Keeps held ready v) (names : List String) :
    ∃ later, Listed.createChannels names s = (.ok (.ok ()), later) ∧ later.ids = s.ids ∧
      later.Keeps held ready (v.enlist names) := by
  cases names with
  | nil => exact ⟨s, rfl, rfl, keeps⟩
  | cons first rest =>
    obtain ⟨opened, isOpen, ids, keeps, run⟩ := keeps.connected lawful "create_channels" none fun s => do
      onServer (ListClient.write (.sadd s.registry (first :: rest)))
      return .ok ()
    obtain ⟨data, written, laid⟩ := keeps.laid.sadd_run (first :: rest)
    have full : (Request.write (.sadd opened.registry (first :: rest))).Full := List.cons_ne_nil first rest
    obtain ⟨_, server, put, -, kept⟩ :=
      keeps.ask lawful isOpen full (Request.write_run written) (keeps.sound.enlist _) laid
    refine ⟨{ opened with server }, run.trans (Action.reporting_of_ok ?_), ids, kept⟩
    exact (Action.bind_of_ok put).trans rfl

theorem channels (keeps : s.Keeps held ready v) :
    ∃ later, Listed.channels s = (.ok (.ok (v.names.mergeSort fun a b => a ≤ b)), later) ∧ later.ids = s.ids ∧
      later.Keeps held ready v := by
  obtain ⟨opened, isOpen, ids, keeps, run⟩ :=
    keeps.connected lawful "list_channels" none fun s => enumerate s.registry
  obtain ⟨members, there, keys⟩ := keeps.laid.registry
  have full : (Request.members opened.registry).Full := trivial
  obtain ⟨told, server, answered, same, kept⟩ :=
    keeps.ask lawful isOpen full (Request.members_run there) keeps.sound keeps.laid
  refine ⟨{ opened with server }, run.trans (Action.reporting_of_ok ?_), ids, kept⟩
  exact enumerate_of_names answered (keys ▸ same)

theorem deleteChannels (keeps : s.Keeps held ready v) (names : List String) :
    ∃ later, Listed.deleteChannels names s = (.ok (.ok ()), later) ∧ later.ids = s.ids ∧
      later.Keeps held ready (v.discard names) := by
  cases names with
  | nil => exact ⟨s, rfl, rfl, v.discard_nil.symm ▸ keeps⟩
  | cons first rest =>
    obtain ⟨opened, isOpen, ids, keeps, run⟩ := keeps.connected lawful "delete_channels" none fun s => do
      onServer (ListClient.transaction [.delete ((first :: rest).map s.pendingOf),
        .delete ((first :: rest).map s.inFlightOf), .srem s.registry (first :: rest)])
      return .ok ()
    obtain ⟨data, written, laid⟩ := keeps.laid.discard_run (first :: rest)
    have full : (Request.transaction [.delete ((first :: rest).map opened.pendingOf),
        .delete ((first :: rest).map opened.inFlightOf), .srem opened.registry (first :: rest)]).Full := by
      simp [Request.Full, Write.Full]
    obtain ⟨_, server, put, -, kept⟩ :=
      keeps.ask lawful isOpen full (Request.transaction_run written) (keeps.sound.discard _) laid
    refine ⟨{ opened with server }, run.trans (Action.reporting_of_ok ?_), ids, kept⟩
    exact (Action.bind_of_ok put).trans rfl

theorem ifKnown (keeps : s.Keeps held ready v) (isOpen : s.isOpen = true) (channel : String) :
    ∃ server, Listed.ifKnown channel s = (.ok (v.ofKnown channel ()), { s with server }) ∧
      Keeps held ready v { s with server } := by
  have asked := ifKnown_asked lawful channel s
  have known := keeps.known_iff channel
  obtain ⟨members, there, -⟩ := keeps.laid.registry
  generalize Listed.ifKnown channel s = out at asked
  have kept {server : σ} (data : held server = held s.server) (stays : ready s.server → ready server) :
      Keeps held ready v { s with server } :=
    ⟨stays keeps.start, .inl isOpen, keeps.sound, data ▸ keeps.laid⟩
  cases asked with
  | @known server member data stays =>
    rw [View.ofKnown, if_pos (known.mp member)]
    exact ⟨server, rfl, kept data stays⟩
  | @unknown server absent data stays =>
    rw [View.ofKnown, if_neg (known.not.mp absent)]
    exact ⟨server, rfl, kept data stays⟩
  | failed excused => cases there.symm.trans (excused keeps.start)

/-- A question about a channel is put to the server if the channel is known. -/
theorem ifKnown_onSuccess {α : Type} (keeps : s.Keeps held ready v) (isOpen : s.isOpen = true) (channel : String)
    (a : α) (act : Action (Listed σ) (Outcome α)) (answers : ∀ server, Keeps held ready v { s with server } →
      ∃ later, act { s with server } = (.ok (.ok a), later) ∧ later.ids = s.ids ∧ later.Keeps held ready v) :
    ∃ later, ((Listed.ifKnown channel).onSuccess fun _ => act) s = (.ok (v.ofKnown channel a), later) ∧
      later.ids = s.ids ∧ later.Keeps held ready v := by
  obtain ⟨server, asked, keeps⟩ := keeps.ifKnown lawful isOpen channel
  unfold View.ofKnown at asked ⊢
  split at asked
  · rename_i known
    obtain ⟨later, run, ids, kept⟩ := answers server keeps
    rw [if_pos known]
    exact ⟨later, (Action.onSuccess_of_ok asked).trans run, ids, kept⟩
  · rename_i unknown
    rw [if_neg unknown]
    exact ⟨{ s with server }, Action.onSuccess_of_error asked, rfl, keeps⟩

theorem length_waiting (keeps : s.Keeps held ready v) (isOpen : s.isOpen = true) (channel : String) :
    ∃ later, (do return .ok (← onServer (ListClient.length (s.pendingOf channel))) :
        Action (Listed σ) (Outcome Nat)) s = (.ok (.ok (v.queue channel).length), later) ∧
      later.ids = s.ids ∧ later.Keeps held ready v := by
  have full : (Request.length (s.pendingOf channel)).Full := trivial
  obtain ⟨told, server, counted, same, kept⟩ := keeps.ask lawful isOpen full
    (Request.length_run (keeps.laid.pending channel)) keeps.sound keeps.laid
  rw [show told = _ from same, List.length_map] at counted
  exact ⟨{ s with server }, (Action.bind_of_ok counted).trans rfl, rfl, kept⟩

theorem count (keeps : s.Keeps held ready v) (channel : String) :
    ∃ later, Listed.count channel s = (.ok (v.ofKnown channel (v.queue channel).length), later) ∧
      later.ids = s.ids ∧ later.Keeps held ready v := by
  obtain ⟨opened, isOpen, ids, keeps, run⟩ := keeps.connected lawful "get_message_count" (some channel) fun s =>
    (Listed.ifKnown channel).onSuccess fun _ => do
      return .ok (← onServer (ListClient.length (s.pendingOf channel)))
  obtain ⟨later, answered, same, kept⟩ := keeps.ifKnown_onSuccess lawful isOpen channel (v.queue channel).length
    (do return .ok (← onServer (ListClient.length (opened.pendingOf channel))))
    fun _ keeps => keeps.length_waiting lawful isOpen channel
  exact ⟨later, run.trans (Action.reporting_of_ok answered), same.trans ids, kept⟩

theorem send (keeps : s.Keeps held ready v) (channel : String) {messages : List Message}
    (fits : ∀ m ∈ (stampAll s.ids messages).1, Envelope.Fits m.receive) :
    ∃ later, Listed.send channel messages s = (.ok (.ok ()), later) ∧
      later.ids = (stampAll s.ids messages).2 ∧
      later.Keeps held ready ((v.enlist [channel]).append channel (stampAll s.ids messages).1) := by
  obtain ⟨data, written, laid⟩ := keeps.laid.posting_run channel (stampAll s.ids messages).1
  obtain ⟨later, run, settings, ids, reachable, left, start⟩ :=
    send_of_ready lawful keeps.start keeps.reachable (fun m member => (fits m member).of_receive) written
  refine ⟨later, run, ids, start, reachable, ?_, settings ▸ left ▸ laid⟩
  exact (keeps.sound.enlist _).append channel fun m member => ⟨id_of_mem_stampAll member, fits m member⟩

theorem receive_unknown (keeps : s.Keeps held ready v) {channel : String} (unknown : channel ∉ v.names) {limit : Int}
    (wanted : 0 < limit) :
    ∃ later, Listed.receive channel limit s = (.ok (.error (.channelNotFound channel)), later) ∧
      later.ids = s.ids ∧ later.Keeps held ready v := by
  obtain ⟨opened, connected, isOpen, ids, keeps⟩ := keeps.opened lawful
  obtain ⟨server, asked, kept⟩ := keeps.ifKnown lawful isOpen channel
  rw [View.ofKnown, if_neg unknown] at asked
  refine ⟨{ opened with server }, ?_, ids, kept⟩
  rw [receive_of_connected connected wanted]
  exact Action.reporting_of_ok (Action.onSuccess_of_error asked)

omit [ListClient σ] lawful in
theorem receipt_of_front (keeps : s.Keeps held ready v) (channel : String) (count : Nat) :
    ∀ m ∈ (v.queue channel).take count, receipt (Envelope.form m) =
      .ok ({ m.receive with origin := none }, Envelope.form m.receive) :=
  fun m member => receipt_form (keeps.sound.queued channel m (List.mem_of_mem_take member)).2

omit [ListClient σ] lawful in
theorem front_eq (keeps : s.Keeps held ready v) (channel : String) (count : Nat) :
    front held channel count s = ((v.queue channel).take count).map Envelope.form := by
  rw [front, keeps.waiting_eq, List.map_take]

omit [ListClient σ] lawful in
theorem files (keeps : s.Keeps held ready v) (channel : String) (count : Nat) :
    Files (s.inFlightOf channel) (front held channel count s) (held s.server) := by
  obtain ⟨fields, there, -⟩ := keeps.laid.inFlight channel
  rw [keeps.front_eq]
  refine ⟨fun raw member => ?_, fun _ => Option.isSome_of_eq_some there⟩
  obtain ⟨m, inside, rfl⟩ := List.mem_map.mp member
  exact ⟨_, _, keeps.receipt_of_front channel count m inside,
    (keeps.sound.queued channel m (List.mem_of_mem_take inside)).1⟩

/-- The messages at the front are answered, the origin apart, which is not written, and they are in flight. -/
theorem take (keeps : s.Keeps held ready v) (isOpen : s.isOpen = true) (channel : String) {count : Nat}
    (some_wanted : 0 < count) :
    ∃ later, Listed.take channel count s s =
        (.ok (.ok ((v.received channel count).map fun m => { m with origin := none })), later) ∧
      later.ids = s.ids ∧ later.Keeps held ready (v.take channel count) := by
  have taking := take_settles lawful channel some_wanted s
  generalize Listed.take channel count s s = out at taking
  cases taking with
  | @filed received server read files written stays =>
    rw [keeps.front_eq, List.mapM_map] at read
    cases (Outcome.mapM_of_forall_mem (keeps.receipt_of_front channel count)).symm.trans read
    have answers : (((v.queue channel).take count).map fun m =>
        (({ m.receive with origin := none } : Message), Envelope.form m.receive)).map Prod.fst =
          (v.received channel count).map fun m => { m with origin := none } := by
      rw [View.received, List.map_map, List.map_map]
      rfl
    have fresh : fieldsOf (((v.queue channel).take count).map fun m =>
        (({ m.receive with origin := none } : Message), Envelope.form m.receive)) =
          ((v.received channel count).map fun m => (m.id, m)).map heldField := by
      rw [View.received, fieldsOf, List.map_map, List.map_map, List.map_map]
      rfl
    rw [answers]
    rw [fresh] at written
    refine ⟨{ s with server }, rfl, rfl, stays keeps.start, .inl isOpen, keeps.sound.take channel count, ?_⟩
    obtain ⟨fields, there, entries⟩ := keeps.laid.inFlight channel
    have list : ListClient.listAt (s.pendingOf channel) (popped held channel count s) =
        some (((v.queue channel).drop count).map Envelope.form) := by
      rw [popped, ListClient.listAt_put, keeps.waiting_eq, List.map_drop]
    have hash : ListClient.hashAt (s.inFlightOf channel) (popped held channel count s) = some fields :=
      (ListClient.hashAt_congr (ListClient.put_of_ne Key.pending_ne_inFlight.symm _)).trans there
    exact (keeps.laid.setQueue list fun other away => ListClient.put_of_ne away _).setHeld (written.here fields hash)
      written.elsewhere (View.LaidOut.entries_taken keeps.sound entries count)
  | late excused => exact absurd keeps.start excused
  | lost _ excused => exact absurd (keeps.files channel count) (excused keeps.start)
  | left excused => cases (keeps.laid.pending channel).symm.trans (excused keeps.start)

theorem receive_known (keeps : s.Keeps held ready v) {channel : String} (known : channel ∈ v.names) {limit : Int}
    (wanted : 0 < limit) :
    ∃ later, Listed.receive channel limit s =
        (.ok (.ok ((v.received channel limit.toNat).map fun m => { m with origin := none })), later) ∧
      later.ids = s.ids ∧ later.Keeps held ready (v.take channel limit.toNat) := by
  obtain ⟨opened, connected, isOpen, ids, keeps⟩ := keeps.opened lawful
  obtain ⟨server, asked, kept⟩ := keeps.ifKnown lawful isOpen channel
  rw [View.ofKnown, if_pos known] at asked
  obtain ⟨later, taken, same, kept⟩ := kept.take lawful isOpen channel (show 0 < limit.toNat by omega)
  refine ⟨later, ?_, same.trans ids, kept⟩
  rw [receive_of_connected connected wanted]
  exact Action.reporting_of_ok ((Action.onSuccess_of_ok asked).trans taken)

theorem read_front (keeps : s.Keeps held ready v) (isOpen : s.isOpen = true) (channel : String) {count : Nat}
    (some_wanted : 0 < count) :
    ∃ later, (do
        let raws ← onServer (ListClient.front (s.pendingOf channel) count)
        return .ok (← .ofAttempt (raws.mapM Envelope.read)) : Action (Listed σ) (Outcome (List Message))) s =
          (.ok (.ok (((v.queue channel).take count).map fun m => { m with origin := none })), later) ∧
      later.ids = s.ids ∧ later.Keeps held ready v := by
  have full : (Request.front (s.pendingOf channel) count).Full := some_wanted
  obtain ⟨told, server, answered, same, kept⟩ := keeps.ask lawful isOpen full
    (Request.front_run (keeps.laid.pending channel) count) keeps.sound keeps.laid
  have each : ∀ m ∈ (v.queue channel).take count,
      (Envelope.read ∘ Envelope.form) m = .ok { m with origin := none } := fun m member =>
    Envelope.read_form (keeps.fits (List.mem_of_mem_take member))
  have read : Action.ofAttempt (told.mapM Envelope.read) { s with server } =
      (.ok (((v.queue channel).take count).map fun m => { m with origin := none }), { s with server }) := by
    rw [Action.ofAttempt_apply, show told = _ from same, ← List.map_take, List.mapM_map,
      Outcome.mapM_of_forall_mem each]
  refine ⟨{ s with server }, ?_, rfl, kept⟩
  exact (Action.bind_of_ok answered).trans ((Action.bind_of_ok read).trans rfl)

theorem peek (keeps : s.Keeps held ready v) (channel : String) {limit : Int} (wanted : 0 < limit) :
    ∃ later, Listed.peek channel limit s = (.ok (v.ofKnown channel
        (((v.queue channel).take limit.toNat).map fun m => { m with origin := none })), later) ∧
      later.ids = s.ids ∧ later.Keeps held ready v := by
  obtain ⟨opened, connected, isOpen, ids, keeps⟩ := keeps.opened lawful
  let front : List Message := ((v.queue channel).take limit.toNat).map fun m => { m with origin := none }
  obtain ⟨later, answered, same, kept⟩ := keeps.ifKnown_onSuccess lawful isOpen channel front
    (do return .ok (← .ofAttempt ((← onServer (ListClient.front (opened.pendingOf channel) limit.toNat)).mapM
      Envelope.read)))
    fun _ keeps => keeps.read_front lawful isOpen channel (by omega)
  refine ⟨later, (Action.onSuccess_of_ok connected).trans ?_, same.trans ids, kept⟩
  rw [if_neg (by omega)]
  exact (Action.bind_of_ok rfl).trans (Action.reporting_of_ok answered)

theorem delete (keeps : s.Keeps held ready v) (channel : String) (ids : List String) :
    ∃ later, Listed.delete channel ids s = (.ok (.ok ()), later) ∧ later.ids = s.ids ∧
      later.Keeps held ready (v.remove channel ids) := by
  by_cases nothing : ids = []
  · subst nothing
    exact ⟨s, rfl, rfl, (v.remove_nil channel).symm ▸ keeps⟩
  obtain ⟨later, run, legible, cleared⟩ := (keeps.legible channel).delete lawful nothing
  refine ⟨later, run, cleared.supply, legible.start, legible.reachable, ?_, ?_⟩
  · refine (keeps.sound.setHeld channel fun e member => ?_).setQueue channel fun m member => ?_
    · exact keeps.sound.held channel e (List.mem_filter.mp member).1
    · exact keeps.sound.queued channel m (List.mem_filter.mp member).1
  obtain ⟨fields, there, entries⟩ := keeps.laid.inFlight channel
  have list := cleared.list legible
  have hash := cleared.hash legible
  rw [keeps.waiting_eq, filter_forms fun m member => congrArg (! ·) (isNamed_form (keeps.fits member))] at list
  rw [show s.flight held channel = fields from ListClient.fieldsAt_eq there] at hash
  rw [cleared.settings]
  exact keeps.laid.remove list hash (View.LaidOut.entries_removed keeps.sound entries ids) cleared.elsewhere

end
end Keeps
end Depot.Messenger.Listed
