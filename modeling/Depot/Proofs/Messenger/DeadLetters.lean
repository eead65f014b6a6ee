import Depot.Proofs.ListClient.Unsteady
import Depot.Proofs.Message.Envelope.Writing
import Depot.Proofs.Messenger.Listed.Receiving
import Depot.Proofs.Messenger.Listed.Requests
import Depot.Proofs.Messenger.Listed.Success
import Depot.Proofs.Messenger.View

namespace Depot.Messenger

/-- How a messenger keeps the messages of its channels: those that wait as a list of entries, and those in flight
by their identifiers. -/
structure Shelves (σ α κ : Type) where
  waiting : String → σ → List α
  flight : String → σ → Table κ α
  message? : α → Option Message
  key : String → κ

namespace Shelves

variable {σ α κ : Type} (v : Shelves σ α κ)

def Untouched (channel : String) (s later : σ) : Prop :=
  v.waiting channel later = v.waiting channel s ∧ v.flight channel later = v.flight channel s

/-- No message with the identifier waits or is in flight. -/
structure Free (channel id : String) (s : σ) : Prop where
  waiting : ∀ a ∈ v.waiting channel s, ∀ m, v.message? a = some m → m.id ≠ some id
  flight : v.key id ∉ (v.flight channel s).keys

/-- Behind what waited in a channel there is now this message. -/
def Gains (channel : String) (s later : σ) (m : Message) : Prop :=
  ∃ a, v.waiting channel later = v.waiting channel s ++ [a] ∧ v.message? a = some m

/-- What a messenger does to its shelves, whatever fails: a call on one channel leaves the others alone, and one
that succeeds has done what it is for. -/
structure Lawful (m : Messenger σ) : Prop where
  send_elsewhere : ∀ {channel other}, channel ≠ other → ∀ messages s,
    v.Untouched other s (m.send channel messages s).2
  send_here : ∀ {channel message s later}, message.id.isSome →
    m.send channel [message] s = (.ok (.ok ()), later) → ∃ origin, v.Gains channel s later { message with origin }
  delete_elsewhere : ∀ {channel other}, channel ≠ other → ∀ ids s,
    v.Untouched other s (m.delete channel ids s).2
  delete_here : ∀ {channel ids s later}, m.delete channel ids s = (.ok (.ok ()), later) →
    ∀ id ∈ ids, v.Free channel id later

/-- A copy of a message is at the end of the channel for those that are set aside, with the reason and the error
among its properties. -/
def SetAside (channel : String) (m : Message) (reason : String) (description : Option String) (s later : σ) :
    Prop :=
  ∃ copy, v.Gains (deadLettersOf channel) s later copy ∧ copy.id = m.id ∧ copy.content = m.content ∧
    copy.received = m.received ∧ copy.properties = m.properties.putAll
      ((reasonHeader, reason) :: (description.map fun text => (errorHeader, text)).toList)

/-- What has become of a message when its receiver has tried to set it aside. -/
structure Settles (m : Messenger σ) (channel : String) (message : Message) (id reason : String)
    (description : Option String) (s : σ) (result : Attempt (Outcome Unit)) (later : σ) : Prop where
  somewhere : v.Untouched channel s later ∨ v.SetAside channel message reason description s later
  done : result = .ok (.ok ()) →
    v.SetAside channel message reason description s later ∧ v.Free channel id later
  unsent : (m.send (deadLettersOf channel) [marked message reason description] s).1 ≠ .ok (.ok ()) →
    v.Untouched channel s later

variable {v} {m : Messenger σ}

theorem properties_marked (m : Message) (reason : String) (description : Option String) :
    (marked m reason description).properties = m.properties.putAll
      ((reasonHeader, reason) :: (description.map fun text => (errorHeader, text)).toList) := by
  cases description <;> rfl

/-- Setting a message aside once it has been sent: the deletion that follows does nothing to its copy. -/
theorem Lawful.setAside (lawful : v.Lawful m) {channel : String} {message : Message} (given : message.id.isSome)
    {reason : String} {description : Option String} {s sent : σ}
    (run : m.send (deadLettersOf channel) [marked message reason description] s = (.ok (.ok ()), sent))
    (ids : List String) :
    v.SetAside channel message reason description s (m.delete channel ids sent).2 := by
  have kept := lawful.delete_elsewhere (deadLettersOf_ne channel) ids sent
  obtain ⟨origin, a, waiting, read⟩ := lawful.send_here (by rwa [id_marked]) run
  refine ⟨_, ⟨a, kept.1.trans waiting, read⟩, id_marked .., ?_, ?_, properties_marked message reason description⟩
  · cases description <;> rfl
  · cases description <;> rfl

theorem Lawful.settles (lawful : v.Lawful m) {message : Message} {id : String} (given : message.id = some id)
    {channel reason : String} {description : Option String} {s later : σ} {result : Attempt (Outcome Unit)}
    (run : (m.receiver channel).deadLetter message reason description s = (result, later)) :
    v.Settles m channel message id reason description s result later := by
  have unsent := lawful.send_elsewhere (deadLettersOf_ne channel).symm [marked message reason description] s
  rcases sent : m.send (deadLettersOf channel) [marked message reason description] s with ⟨fault | e | _, middle⟩
  · cases run.symm.trans (Action.onSuccess_of_fault sent)
    rw [sent] at unsent
    exact ⟨Or.inl unsent, nofun, fun _ => unsent⟩
  · cases run.symm.trans (Action.onSuccess_of_error sent)
    rw [sent] at unsent
    exact ⟨Or.inl unsent, nofun, fun _ => unsent⟩
  · have deleted : m.delete channel [id] middle = (result, later) := by
      refine Eq.trans ?_ ((Action.onSuccess_of_ok sent).symm.trans run)
      rw [given]
    have aside := lawful.setAside (by rw [given]; rfl) sent [id]
    rw [deleted] at aside
    refine ⟨Or.inr aside, fun done => ⟨aside, ?_⟩, fun failed => absurd (congrArg Prod.fst sent) failed⟩
    exact lawful.delete_here (done ▸ deleted) id (List.mem_singleton_self id)

end Shelves

namespace Memory

def shelves : Shelves Memory Message (Option String) where
  waiting := queue
  flight := held
  message? := some
  key := some

theorem shelves_lawful : shelves.Lawful memory where
  send_elsewhere {channel other} different messages s :=
    ⟨(queue_send channel other messages s).trans (if_neg different),
      congrFun (congrArg View.held (view_send channel messages s)) other⟩
  send_here {channel message s later} given sent := by
    cases sent
    obtain ⟨id, given⟩ := Option.isSome_iff_exists.mp given
    refine ⟨message.origin, message, (queue_send channel channel [message] s).trans ?_, rfl⟩
    rw [if_pos rfl, stampAll_of_id given]
    rfl
  delete_elsewhere {channel other} different ids s := by
    refine ⟨(queue_delete channel other ids s).trans (if_neg different), ?_⟩
    have held := congrFun (congrArg View.held (view_delete channel ids s)) other
    exact held.trans (Function.update_of_ne different.symm _ _)
  delete_here {channel ids s later} deleted id named := by
    cases deleted
    constructor
    · intro m member m' same given
      cases same
      rw [show shelves.waiting channel _ = unnamed ids (s.queue channel) from
        (queue_delete channel channel ids s).trans (if_pos rfl)] at member
      have unnamed := (List.mem_filter.mp member).2
      rw [Bool.not_eq_true', ← Bool.not_eq_true] at unnamed
      exact unnamed (isNamed_iff.mpr ⟨id, given, named⟩)
    · have held := congrFun (congrArg View.held (view_delete channel ids s)) channel
      rw [show shelves.flight channel _ = (s.held channel).eraseAll (ids.map some) from
        held.trans (Function.update_self ..)]
      exact Table.not_mem_keys_eraseAll (List.mem_map_of_mem named) _

end Memory

namespace Listed

open ListClient (Data Lawful)

def shelves {σ : Type} (held : σ → Data) : Shelves (Listed σ) Bytes Bytes where
  waiting channel s := s.waiting held channel
  flight channel s := s.flight held channel
  message? raw := (Envelope.read raw).toOption
  key := Utf8.encode

variable {σ : Type} [ListClient σ] {held : σ → Data} {ready : σ → Prop} (lawful : Lawful held ready)
include lawful

/-- A channel is left alone by a call that does not mention its collections. -/
theorem untouched_of_engages {α : Type} {act : Action (Listed σ) (Outcome α)} {K : String → Prop} {s : Listed σ}
    (engages : Engages s.settings K act) {other : String} (pending : ¬ K (s.pendingOf other))
    (inFlight : ¬ K (s.inFlightOf other)) : (shelves held).Untouched other s (act s).2 := by
  obtain ⟨settings, spares⟩ := engages.spares lawful
  constructor
  · change waiting held _ other = waiting held s other
    rw [waiting, pendingOf_congr settings]
    exact ListClient.itemsAt_congr (spares.elsewhere _ pending)
  · change flight held _ other = flight held s other
    rw [flight, inFlightOf_congr settings]
    exact ListClient.fieldsAt_congr (spares.elsewhere _ inFlight)

theorem shelves_lawful : (shelves held).Lawful listed where
  send_elsewhere {channel other} different messages s := by
    let K (key : String) : Prop := key = s.registry ∨ key = s.pendingOf channel
    refine untouched_of_engages lawful (K := K) (engages_send (.inl rfl) (.inr rfl) messages) ?_ ?_
    · exact not_or.mpr ⟨Key.registry_ne_pending.symm, fun same => different (Key.pending_inj.mp same).symm⟩
    · exact not_or.mpr ⟨Key.registry_ne_inFlight.symm, Key.pending_ne_inFlight.symm⟩
  send_here {channel message s later} given sent := by
    obtain ⟨id, given⟩ := Option.isSome_iff_exists.mp given
    obtain ⟨raws, written, waiting⟩ := send_eq_ok lawful sent
    rw [stampAll_of_id given] at written
    have fits : Envelope.Fits message := by
      by_contra large
      rw [List.mapM_cons, Envelope.write_of_not_fits large] at written
      cases written
    rw [List.mapM_cons, Envelope.write_eq fits] at written
    cases written
    refine ⟨none, Envelope.form message, waiting, ?_⟩
    change (Envelope.read (Envelope.form message)).toOption = _
    rw [Envelope.read_form fits]
    rfl
  delete_elsewhere {channel other} different ids s := by
    by_cases nothing : ids = []
    · subst nothing
      exact ⟨rfl, rfl⟩
    let K (key : String) : Prop := key = s.pendingOf channel ∨ key = s.inFlightOf channel
    refine untouched_of_engages lawful (K := K) (engages_delete (.inl rfl) (.inr rfl) nothing) ?_ ?_
    · exact not_or.mpr ⟨fun same => different (Key.pending_inj.mp same).symm, Key.pending_ne_inFlight⟩
    · exact not_or.mpr ⟨Key.pending_ne_inFlight.symm, fun same => different (Key.inFlight_inj.mp same).symm⟩
  delete_here {channel ids s later} deleted id named := by
    obtain ⟨waiting, flight⟩ := delete_eq_ok lawful (List.ne_nil_of_mem named) deleted
    constructor
    · intro raw member m read given
      have told : isNamed ids raw = true := by
        rw [isNamed_of_read (Outcome.toOption_eq_some_iff.mp read)]
        exact Memory.isNamed_iff.mpr ⟨id, given, named⟩
      rw [show (shelves held).waiting channel later = _ from waiting] at member
      have spared := (List.mem_filter.mp member).2
      rw [told] at spared
      cases spared
    · rw [show (shelves held).flight channel later = _ from flight]
      exact Table.not_mem_keys_eraseAll (List.mem_map_of_mem named) _

end Listed

/-- A message that its receiver sets aside is never lost, in memory or on a server whatever becomes of each call to it.
Either its channel is as it was, or a copy with the reason is at the end of the other channel. If the call
succeeds there is the copy, and no message with the identifier waits in the channel or is in flight; and if the
copy cannot be sent, the channel is as it was. -/
theorem dead_letters_not_lost {message : Message} {id : String} (named : message.id = some id)
    (channel reason : String) (description : Option String) :
    (∀ s result later, (memory.receiver channel).deadLetter message reason description s = (result, later) →
      Memory.shelves.Settles memory channel message id reason description s result later) ∧
    ∀ (σ : Type) [ListClient σ] (held : σ → ListClient.Data) (ready : σ → Prop), ListClient.Lawful held ready →
      ∀ (s : Listed σ) result later,
        (listed.receiver channel).deadLetter message reason description s = (result, later) →
          (Listed.shelves held).Settles listed channel message id reason description s result later :=
  ⟨fun _ _ _ run => Memory.shelves_lawful.settles named run,
    fun _ _ _ _ lawful _ _ _ run => (Listed.shelves_lawful lawful).settles named run⟩

def letter : Message := { content := [97], id := some "m1", received := 1 }

/-- A channel in which the message waits. The connection to its server breaks when the message is removed, after its
copy has been sent. -/
def jammed : Listed (Unsteady ListServer) where
  settings := {}
  server :=
    { server := Listed.stocked [Envelope.form letter]
      fates := [.carried, .carried, .carried, .carried, .carried, .undone (.raised .client "broken pipe")] }

theorem dead_letters_not_lost_jammed :
    (∃ e later,
      (listed.receiver "jobs").deadLetter letter "late" (some "timeout") jammed = (.ok (.error e), later) ∧
      (Listed.shelves fun s : Unsteady ListServer => s.server.data).Settles listed "jobs" letter "m1" "late"
        (some "timeout") jammed (.ok (.error e)) later ∧
      later.waiting (fun s => s.server.data) "jobs" = [Envelope.form letter] ∧
      later.waiting (fun s => s.server.data) "jobs.deadletter" =
        [Envelope.form (marked letter "late" (some "timeout"))]) ∧
    ∃ later, (memory.receiver "jobs").deadLetter letter "late" none
        { pending := .ofList [("jobs", [letter])], inFlight := .ofList [("jobs", .empty)] } = (.ok (.ok ()), later) ∧
      Memory.shelves.Settles memory "jobs" letter "m1" "late" none
        { pending := .ofList [("jobs", [letter])], inFlight := .ofList [("jobs", .empty)] } (.ok (.ok ())) later ∧
      later.queue "jobs" = [] ∧ later.queue "jobs.deadletter" = [marked letter "late" none] := by
  refine ⟨⟨_, _, rfl, ?_, rfl, rfl⟩, _, rfl, ?_, rfl, rfl⟩
  · exact (dead_letters_not_lost rfl "jobs" "late" (some "timeout")).2 _ _ _ (Unsteady.lawful ListServer.lawful) _ _ _
      rfl
  · exact (dead_letters_not_lost rfl "jobs" "late" none).1 _ _ _ rfl

end Depot.Messenger
