import Depot.ListServer
import Depot.Proofs.ListServer
import Depot.Proofs.Messenger.Listed.Taking

namespace Depot.Messenger.Listed

open ListClient (Data Lawful hashAt listAt)
open ListClient.Request (fieldOf)

variable {σ : Type} [ListClient σ] {held : σ → Data} {ready : σ → Prop} {s later : Listed σ} {channel : String}
variable {received : List (Message × Bytes)}

/-- A message of a batch is found in flight, or another of the batch with the same identifier. -/
theorem get?_filed (named : ∀ r ∈ received, r.1.id.isSome) (known : Table Bytes Bytes) {r : Message × Bytes}
    (member : r ∈ received) :
    ∃ found ∈ received, found.1.id = r.1.id ∧
      (known.putAll (fieldsOf received)).get? (fieldOf r.1.id) = some found.2 := by
  have among : fieldOf r.1.id ∈ (Table.ofList (fieldsOf received)).keys := by
    refine Table.mem_keys_putAll.mpr (Or.inr ?_)
    rw [fieldsOf, List.map_map]
    exact List.mem_map_of_mem (f := fun r : Message × Bytes => fieldOf r.1.id) member
  obtain ⟨raw, entry⟩ := Table.mem_keys.mp among
  have filed := (Table.mem_of_mem_entries_putAll entry).resolve_left fun nowhere => nomatch nowhere
  obtain ⟨found, inside, same⟩ := List.mem_map.mp filed
  obtain ⟨name, rfl⟩ := Prod.mk.injEq .. ▸ same
  refine ⟨found, inside, ListClient.Request.fieldOf_injective (named found inside) (named r member) name, ?_⟩
  rw [Table.get?_putAll, Table.get?_eq_some_iff.mpr entry, Option.some_or]

/-- The collections of a channel are as they were. -/
structure Untouched (held : σ → Data) (channel : String) (s later : Listed σ) : Prop where
  waiting : later.waiting held channel = s.waiting held channel
  flight : later.flight held channel = s.flight held channel

/-- The entries at the front of the list are in flight, with one more receipt each and under the identifiers of
their messages. Where two of them have the same one, the later is there. -/
structure Filed (held : σ → Data) (channel : String) (count : Nat) (s : Listed σ)
    (received : List (Message × Bytes)) (later : Listed σ) : Prop where
  read : ((s.waiting held channel).take count).mapM receipt = .ok received
  files : Files (s.inFlightOf channel) ((s.waiting held channel).take count) (held s.server)
  waiting : later.waiting held channel = (s.waiting held channel).drop count
  flight : later.flight held channel = (s.flight held channel).putAll (fieldsOf received)
  found : ∀ r ∈ received, ∃ last ∈ received, last.1.id = r.1.id ∧
    (later.flight held channel).get? (fieldOf r.1.id) = some last.2

/-- Messages are asked for of a channel that is known and whose entries are a list, and a client can be had. -/
structure Takes (held : σ → Data) (channel : String) (limit : Int) (s : Listed σ) : Prop where
  reachable : s.Reachable
  wanted : 0 < limit
  known : s.IsRegistered held channel
  list : (listAt (s.pendingOf channel) (held s.server)).isSome

/-- What becomes of a channel when messages are received from it. -/
inductive Received (held : σ → Data) (ready : σ → Prop) (channel : String) (limit : Int) (s : Listed σ) :
    Attempt (Outcome (List Message)) × Listed σ → Prop
  /-- The call is interrupted before there is a client. -/
  | stranded {fault : Fault} {later : Listed σ} (strands : s.Strands fault) (excused : ¬ ready s.server)
      (same : Untouched held channel s later) : Received held ready channel limit s (.error fault, later)
  /-- Nothing is taken off the list. -/
  | idle {answer : Outcome (List Message)} {later : Listed σ} (answered : answer = .ok [] ∨ ∃ e, answer = .error e)
      (excused : ready s.server → ¬ s.Takes held channel limit) (same : Untouched held channel s later) :
      Received held ready channel limit s (.ok answer, later)
  /-- What is taken off the list is answered, and it is in flight. -/
  | filed {received : List (Message × Bytes)} {later : Listed σ}
      (filed : Filed held channel limit.toNat s received later) :
      Received held ready channel limit s (.ok (.ok (received.map Prod.fst)), later)
  /-- It is in flight, but it is not answered. -/
  | late {e : Failure} {received : List (Message × Bytes)} {later : Listed σ} (excused : ¬ ready s.server)
      (filed : Filed held channel limit.toNat s received later) :
      Received held ready channel limit s (.ok (.error e), later)
  /-- It is gone. -/
  | lost {e : Failure} {later : Listed σ}
      (waiting : later.waiting held channel = (s.waiting held channel).drop limit.toNat)
      (flight : later.flight held channel = s.flight held channel)
      (excused : ready s.server → s.Takes held channel limit ∧
        ¬ Files (s.inFlightOf channel) ((s.waiting held channel).take limit.toNat) (held s.server)) :
      Received held ready channel limit s (.ok (.error e), later)

omit [ListClient σ] in
theorem untouched_of_data (later : Listed σ) (settings : later.settings = s.settings)
    (data : held later.server = held s.server) (channel : String) : Untouched held channel s later := by
  constructor
  · rw [waiting, pendingOf_congr settings, data]
    rfl
  · rw [flight, inFlightOf_congr settings, data]
    rfl

section

omit [ListClient σ]

variable {start : Listed σ} {count : Nat}

theorem waiting_of_popped {server : σ} (same : held server (s.pendingOf channel) =
    popped held channel count s (s.pendingOf channel)) :
    waiting held { s with server } channel = (s.waiting held channel).drop count := by
  refine (ListClient.itemsAt_congr same).trans ?_
  exact ListClient.itemsAt_eq (ListClient.listAt_put _)

theorem flight_popped : ListClient.fieldsAt (s.inFlightOf channel) (popped held channel count s) =
    s.flight held channel :=
  ListClient.fieldsAt_congr (ListClient.put_of_ne Key.pending_ne_inFlight.symm _)

theorem Filed.of_written {server : σ} (read : (front held channel count s).mapM receipt = .ok received)
    (files : Files (s.inFlightOf channel) (front held channel count s) (held s.server))
    (written : Written (s.inFlightOf channel) (fieldsOf received) (popped held channel count s) (held server)) :
    Filed held channel count s received { s with server } := by
  have named := receipts_of_files files read
  have fields := written.fields
  rw [flight_popped] at fields
  refine ⟨read, files, waiting_of_popped (written.elsewhere _ Key.pending_ne_inFlight), fields, fun r member => ?_⟩
  obtain ⟨last, inside, same, found⟩ := get?_filed named (s.flight held channel) member
  exact ⟨last, inside, same, (congrArg (·.get? (fieldOf r.1.id)) fields).trans found⟩

theorem Filed.after (settings : start.settings = s.settings) (data : held start.server = held s.server)
    (filed : Filed held channel count start received later) : Filed held channel count s received later := by
  have same := untouched_of_data start settings data channel
  refine ⟨same.waiting ▸ filed.read, ?_, same.waiting ▸ filed.waiting, same.flight ▸ filed.flight, filed.found⟩
  rw [← same.waiting, ← data, ← inFlightOf_congr settings]
  exact filed.files

end

theorem receive_of_connected {opened : Listed σ} (connected : connect s = (.ok (.ok ()), opened)) {limit : Int}
    (wanted : 0 < limit) (channel : String) :
    receive channel limit s = ((ifKnown channel).onSuccess fun _ => take channel limit.toNat opened).reporting
      (transport "receive" (some channel)) opened := by
  refine (Action.onSuccess_of_ok connected).trans ?_
  rw [if_neg (by omega)]
  rfl

/-- Once the channel is known, entries are taken off its list, unless there is no list. -/
theorem received_of_taking {opened start : Listed σ} {limit : Int} {act : Action (Listed σ) (Outcome (List Message))}
    {out : Attempt (Outcome (List Message)) × Listed σ} (run : act opened = out)
    (taking : Taking held ready channel limit.toNat start out) (settings : start.settings = s.settings)
    (data : held start.server = held s.server) (stays : ready s.server → ready start.server)
    (reachable : s.Reachable) (wanted : 0 < limit) (known : s.IsRegistered held channel) (report : Fault → Failure) :
    Received held ready channel limit s (act.reporting report opened) := by
  have same := untouched_of_data start settings data channel
  have list := ListClient.listAt_congr (congrFun data (s.pendingOf channel))
  rw [← pendingOf_congr settings] at list
  cases taking with
  | filed read files written =>
    rw [Action.reporting_of_ok run]
    exact .filed ((Filed.of_written read files written).after settings data)
  | late excused read files written =>
    rw [Action.reporting_of_fault run]
    exact .late (fun ready => excused (stays ready)) ((Filed.of_written read files written).after settings data)
  | @lost _ server there excused dropped =>
    rw [Action.reporting_of_fault run]
    have takes : s.Takes held channel limit := by
      refine ⟨reachable, wanted, known, ?_⟩
      rw [← pendingOf_congr settings, ← list]
      exact there
    have kept : flight held { start with server } channel = start.flight held channel :=
      (congrArg (ListClient.fieldsAt (start.inFlightOf channel)) dropped).trans flight_popped
    refine .lost ?_ (kept.trans same.flight) fun ready => ⟨takes, fun files => excused (stays ready) ?_⟩
    · rw [waiting_of_popped (congrFun dropped _), same.waiting]
    · rw [front, same.waiting, inFlightOf_congr settings, data]
      exact files
  | @left _ server excused left =>
    rw [Action.reporting_of_fault run]
    refine .idle (.inr ⟨_, rfl⟩) (fun ready takes => ?_)
      (untouched_of_data { start with server } settings (left.trans data) channel)
    have there := takes.list
    rw [← pendingOf_congr settings, ← list, excused (stays ready)] at there
    cases there

section

variable (lawful : Lawful held ready)
include lawful

/-- There is a client, and messages are wanted. -/
theorem received_of_connected {opened : Listed σ} (connected : connect s = (.ok (.ok ()), opened)) {limit : Int}
    (wanted : 0 < limit) (channel : String) : Received held ready channel limit s (receive channel limit s) := by
  have rests := (reached_of_connect lawful connected).toRests
  rw [receive_of_connected connected wanted]
  have registered : opened.IsRegistered held channel ↔ s.IsRegistered held channel :=
    isRegistered_congr rests.settings rests.data
  have asked := ifKnown_asked lawful channel opened
  rcases answer : ifKnown channel opened with ⟨fault | e | _, middle⟩ <;> rw [answer] at asked
  · rw [Action.reporting_of_fault (Action.onSuccess_of_fault answer)]
    cases asked with
    | @failed _ server excused data =>
      refine .idle (.inr ⟨_, rfl⟩) (fun start takes => ?_)
        (untouched_of_data { opened with server } rests.settings (data.trans rests.data) channel)
      exact not_isRegistered_of_none (excused (rests.ready start)) (registered.mpr takes.known)
  · rw [Action.reporting_of_ok (Action.onSuccess_of_error answer)]
    cases asked with
    | @unknown server absent data =>
      exact .idle (.inr ⟨_, rfl⟩) (fun _ takes => absent (registered.mpr takes.known))
        (untouched_of_data { opened with server } rests.settings (data.trans rests.data) channel)
  · cases asked with
    | @known server member data stays =>
      have taking := take_settles lawful channel (show 0 < limit.toNat by omega) { opened with server }
      have settings : ({ opened with server } : Listed σ).settings = s.settings := rests.settings
      exact received_of_taking (Action.onSuccess_of_ok answer) taking settings (data.trans rests.data)
        (fun start => stays (rests.ready start)) (reachable_of_connect connected) wanted (registered.mp member) _

/-- Where no call fails, entries that can be filed are taken off their list, answered and in flight. -/
theorem filed_of_ready (start : ready s.server) {limit : Int} (takes : s.Takes held channel limit)
    (files : Files (s.inFlightOf channel) ((s.waiting held channel).take limit.toNat) (held s.server)) :
    ∃ received later, receive channel limit s = (.ok (.ok (received.map Prod.fst)), later) ∧
      Filed held channel limit.toNat s received later := by
  obtain ⟨opened, connected, -⟩ := exists_reached lawful start takes.reachable
  have settles := received_of_connected lawful connected takes.wanted channel
  generalize receive channel limit s = out at settles
  cases settles with
  | stranded _ excused => exact absurd start excused
  | idle _ excused => exact absurd takes (excused start)
  | @filed received later filed => exact ⟨received, later, rfl, filed⟩
  | late excused => exact absurd start excused
  | lost _ _ excused => exact absurd files (excused start).2

/-- What becomes of a channel when messages are received from it, whatever becomes of the calls to the server.
Nothing is taken off its list; or entries are taken off, and all of them are answered and in flight; or the call
fails, and they are all in flight or all of them are lost. Where no call fails, they are lost exactly if they cannot
be filed. -/
theorem receive_settles (channel : String) (limit : Int) (s : Listed σ) :
    Received held ready channel limit s (receive channel limit s) := by
  have rests := rests_connect lawful s
  rcases connected : connect s with ⟨fault | e | _, opened⟩ <;> rw [connected] at rests
  · have strands := connect_eq_error_iff.mp (congrArg Prod.fst connected)
    rw [show receive channel limit s = (.error fault, opened) from Action.onSuccess_of_fault connected]
    exact .stranded strands (not_ready_of_strands lawful strands)
      (untouched_of_data opened rests.settings rests.data channel)
  · rw [show receive channel limit s = (.ok (.error e), opened) from Action.onSuccess_of_error connected]
    refine .idle (.inr ⟨e, rfl⟩) (fun start takes => ?_) (untouched_of_data opened rests.settings rests.data channel)
    cases (congrArg Prod.fst connected).symm.trans (connect_of_ready lawful start takes.reachable)
  by_cases wanted : 0 < limit
  · exact received_of_connected lawful connected wanted channel
  · have run : receive channel limit s = (.ok (.ok []), opened) := by
      refine (Action.onSuccess_of_ok connected).trans ?_
      rw [if_pos (by omega)]
      rfl
    rw [run]
    exact .idle (.inl rfl) (fun _ takes => wanted takes.wanted)
      (untouched_of_data opened rests.settings rests.data channel)

end

def sound : Message := { content := [97], id := some "m1" }

/-- A server with a channel in which these entries wait. -/
def stocked (raws : List Bytes) : ListServer where
  data := ListClient.put "fluentstorage:channel:jobs" (.list raws)
    (ListClient.put "fluentstorage:channels" (.set (.ofList [(Utf8.encode "jobs", ())])) fun _ => none)

/-- A channel in which a message waits, and behind it an entry that is none. -/
def poisoned : Listed ListServer where
  settings := {}
  isOpen := true
  server := stocked [Envelope.form sound, [0]]

theorem receive_settles_poisoned :
    (∃ later, receive "jobs" 1 poisoned = (.ok (.ok [sound.receive]), later) ∧
      Received ListServer.data (fun _ => True) "jobs" 1 poisoned (.ok (.ok [sound.receive]), later) ∧
      later.waiting ListServer.data "jobs" = [[0]] ∧
      (later.flight ListServer.data "jobs").get? (fieldOf (some "m1")) = some (Envelope.form sound.receive)) ∧
    ∃ e later, receive "jobs" 10 poisoned = (.ok (.error e), later) ∧
      Received ListServer.data (fun _ => True) "jobs" 10 poisoned (.ok (.error e), later) ∧
      later.waiting ListServer.data "jobs" = [] ∧ later.flight ListServer.data "jobs" = .empty := by
  exact ⟨⟨_, rfl, receive_settles ListServer.lawful "jobs" 1 poisoned, rfl, rfl⟩, _, _, rfl,
    receive_settles ListServer.lawful "jobs" 10 poisoned, rfl, rfl⟩

/-- A message that waits is lost with the entry behind it: the call fails, and it waits no more and is not
in flight. -/
theorem receive_loses_sound :
    Envelope.read (Envelope.form sound) = .ok sound ∧ Envelope.form sound ∈ poisoned.waiting ListServer.data "jobs" ∧
      ∃ e later, receive "jobs" 10 poisoned = (.ok (.error e), later) ∧
        Envelope.form sound ∉ later.waiting ListServer.data "jobs" ∧
        (later.flight ListServer.data "jobs").isEmpty :=
  ⟨rfl, by decide, _, _, rfl, by decide, rfl⟩

end Depot.Messenger.Listed
