import Depot.ListServer
import Depot.Proofs.ListServer
import Depot.Proofs.Message.Envelope
import Depot.Proofs.Messenger.Listed.Connection
import Depot.Proofs.Outcome

namespace Depot.Messenger.Listed

open ListClient (Data Lawful Request fieldsAt hashAt itemsAt listAt membersAt setAt)
open ListClient.Request (fieldOf)

variable {σ : Type}

section

variable (held : σ → Data) (s : Listed σ) (channel : String)

/-- The entries that wait in a channel. -/
def waiting : List Bytes := itemsAt (s.pendingOf channel) (held s.server)

/-- The entries in flight of a channel, by their encoded identifiers. -/
def flight : Table Bytes Bytes := fieldsAt (s.inFlightOf channel) (held s.server)

def IsRegistered : Prop := Utf8.encode channel ∈ membersAt s.registry (held s.server)

end

variable [ListClient σ] {held : σ → Data} {ready : σ → Prop} {s later : Listed σ} {channel key : String}
variable {raws : List Bytes} {received : List (Message × Bytes)}

/-- How the registry is asked for a channel. Nothing is changed by it. -/
inductive Asked (held : σ → Data) (ready : σ → Prop) (channel : String) (s : Listed σ) :
    Attempt (Outcome Unit) × Listed σ → Prop
  | known {server : σ} (member : s.IsRegistered held channel) (data : held server = held s.server)
      (stays : ready s.server → ready server) : Asked held ready channel s (.ok (.ok ()), { s with server })
  | unknown {server : σ} (absent : ¬ s.IsRegistered held channel) (data : held server = held s.server)
      (stays : ready s.server → ready server) :
      Asked held ready channel s (.ok (.error (.channelNotFound channel)), { s with server })
  | failed {fault : Fault} {server : σ} (excused : ready s.server → setAt s.registry (held s.server) = none)
      (data : held server = held s.server) (stays : ready s.server → ready server) :
      Asked held ready channel s (.error fault, { s with server })

omit [ListClient σ] in
theorem isRegistered_congr {later : Listed σ} (settings : later.settings = s.settings)
    (data : held later.server = held s.server) : later.IsRegistered held channel ↔ s.IsRegistered held channel := by
  rw [IsRegistered, IsRegistered, registry_congr settings, data]

omit [ListClient σ] in
theorem not_isRegistered_of_none (refused : setAt s.registry (held s.server) = none) :
    ¬ s.IsRegistered held channel := by
  rw [IsRegistered, membersAt, refused]
  exact List.not_mem_nil

theorem ifKnown_asked (lawful : Lawful held ready) (channel : String) (s : Listed σ) :
    Asked held ready channel s (ifKnown channel s) := by
  have full : (Request.isMember s.registry channel).Full := trivial
  have stays : ready s.server → ready (ListClient.isMember s.registry channel s.server).2 :=
    lawful.ready_request full
  rw [ifKnown, Action.bind_state]
  rcases run : ListClient.isMember s.registry channel s.server with ⟨fault | told, server⟩ <;>
    rw [run] at stays
  · rw [Action.bind_of_error (onServer_apply run)]
    obtain ⟨excused, leads⟩ := lawful.request_eq_error full run
    refine .failed (fun start => ?_) ?_ stays
    · cases there : setAt s.registry (held s.server) with
      | none => rfl
      | some members => cases (excused start).symm.trans (Request.isMember_run there channel)
    · rcases leads with same | ⟨answer, done⟩
      · exact same
      · obtain ⟨members, -, same⟩ := Option.bind_eq_some_iff.mp done
        exact (congrArg Prod.snd (Option.some.inj same)).symm
  · rw [Action.bind_of_ok (onServer_apply run)]
    obtain ⟨answer, done, rfl⟩ := lawful.request_eq_ok full run
    obtain ⟨members, there, same⟩ := Option.bind_eq_some_iff.mp done
    obtain ⟨rfl, left⟩ := Prod.mk.inj (Option.some.inj same)
    have among : members.contains (Utf8.encode channel) = true ↔ s.IsRegistered held channel := by
      rw [IsRegistered, ListClient.membersAt_eq there, Table.contains_iff]
    split
    · exact .known (among.mp ‹_›) left.symm stays
    · exact .unknown (among.not.mp ‹_›) left.symm stays

/-- A batch is gathered by identifiers before it is written, which comes to writing its messages in order. -/
theorem putAll_gathered {batch : List (Option String × Bytes)} (named : ∀ e ∈ batch, e.1.isSome)
    (known : Table Bytes Bytes) :
    known.putAll ((Table.ofList batch).entries.map fun e => (fieldOf e.1, e.2)) =
      known.putAll (batch.map fun e => (fieldOf e.1, e.2)) := by
  have gathered : (Table.ofList (batch.map fun e => (fieldOf e.1, e.2))).entries =
      (Table.ofList batch).entries.map fun e => (fieldOf e.1, e.2) :=
    Table.entries_putAll_map (f := fun raw => raw) (P := fun id => id.isSome)
      (fun _ _ => ListClient.Request.fieldOf_injective) rfl (fun _ member => nomatch member) named
  rw [← gathered, Table.putAll_entries_ofList]

/-- What is done with entries that have been taken off a list. -/
def file (key : String) (raws : List Bytes) : Action (Listed σ) (Outcome (List Message)) := do
  let received ← .ofAttempt (raws.mapM receipt)
  let held : Table (Option String) Bytes := .ofList (received.map fun r => (r.1.id, r.2))
  if !held.isEmpty then onServer (ListClient.setFields key held.entries)
  return .ok (received.map Prod.fst)

/-- Entries can be filed: each is a message with an identifier and with room for one more receipt, and what is
there of those in flight is a hash. Without entries it does not matter. -/
structure Files (key : String) (raws : List Bytes) (data : Data) : Prop where
  receipts : ∀ raw ∈ raws, ∃ m form, receipt raw = .ok (m, form) ∧ m.id.isSome
  hash : raws ≠ [] → (hashAt key data).isSome

theorem mem_keys_gathered {r : Message × Bytes} (member : r ∈ received) :
    r.1.id ∈ (Table.ofList (received.map fun r => (r.1.id, r.2))).keys := by
  refine Table.mem_keys_putAll.mpr (Or.inr ?_)
  rw [List.map_map]
  exact List.mem_map_of_mem member

/-- What is gathered has a name for each if every message of the batch has one. -/
theorem named_gathered : (∀ e ∈ (Table.ofList (received.map fun r => (r.1.id, r.2))).entries, e.1.isSome) ↔
    ∀ r ∈ received, r.1.id.isSome := by
  constructor
  · intro named r member
    obtain ⟨form, entry⟩ := Table.mem_keys.mp (mem_keys_gathered member)
    exact named _ entry
  · intro named e member
    obtain ⟨r, inside, rfl⟩ := List.mem_map.mp
      ((Table.mem_of_mem_entries_putAll member).resolve_left fun nowhere => nomatch nowhere)
    exact named r inside

theorem gathered_isEmpty_iff : (Table.ofList (received.map fun r => (r.1.id, r.2))).isEmpty ↔ received = [] := by
  constructor
  · intro vacant
    refine List.eq_nil_iff_forall_not_mem.mpr fun r member => ?_
    obtain ⟨form, entry⟩ := Table.mem_keys.mp (mem_keys_gathered member)
    exact List.ne_nil_of_mem entry (List.isEmpty_iff.mp vacant)
  · rintro rfl
    rfl

/-- A batch has been written over the fields of a hash. Without a batch there need be no hash. -/
structure Written (key : String) (batch : List (Bytes × Bytes)) (data later : Data) : Prop where
  fields : fieldsAt key later = (fieldsAt key data).putAll batch
  here : ∀ known, hashAt key data = some known → hashAt key later = some (known.putAll batch)
  elsewhere : ∀ other, other ≠ key → later other = data other

theorem written_nil {data later : Data} (same : later = data) : Written key [] data later := by
  subst same
  exact ⟨rfl, fun _ there => there, fun _ _ => rfl⟩

/-- The batch as it is in flight. -/
def fieldsOf (received : List (Message × Bytes)) : List (Bytes × Bytes) :=
  received.map fun r => (fieldOf r.1.id, r.2)

theorem written_of_run {data later : Data} {answer : Unit}
    (done : (Request.setFields key (Table.ofList (received.map fun r => (r.1.id, r.2))).entries).run data =
      some (answer, later)) :
    (hashAt key data).isSome ∧ (∀ r ∈ received, r.1.id.isSome) ∧ Written key (fieldsOf received) data later := by
  obtain ⟨⟨known, there⟩, each⟩ := Request.setFields_eq_some done
  have named := named_gathered.mp each
  cases done.symm.trans (Request.setFields_run there each)
  have batch : ∀ e ∈ received.map (fun r => (r.1.id, r.2)), e.1.isSome := by
    intro e member
    obtain ⟨r, inside, rfl⟩ := List.mem_map.mp member
    exact named r inside
  have whole := putAll_gathered batch known
  rw [List.map_map] at whole
  refine ⟨Option.isSome_of_eq_some there, named, ?_, fun other found => ?_,
    fun other away => ListClient.put_of_ne away _⟩
  · rw [ListClient.fieldsAt_eq (ListClient.hashAt_put _), ListClient.fieldsAt_eq there, whole]
    rfl
  · cases there.symm.trans found
    rw [ListClient.hashAt_put, whole]
    rfl

/-- What becomes of entries that have been taken off a list. All of them are answered and in flight; or the call
fails, and they are in flight all the same, or none of them is. -/
inductive Filing (held : σ → Data) (ready : σ → Prop) (key : String) (raws : List Bytes) (s : Listed σ) :
    Attempt (Outcome (List Message)) × Listed σ → Prop
  | filed {received : List (Message × Bytes)} {server : σ} (read : raws.mapM receipt = .ok received)
      (files : Files key raws (held s.server))
      (written : Written key (fieldsOf received) (held s.server) (held server))
      (stays : ready s.server → ready server) :
      Filing held ready key raws s (.ok (.ok (received.map Prod.fst)), { s with server })
  | late {fault : Fault} {received : List (Message × Bytes)} {server : σ} (excused : ¬ ready s.server)
      (read : raws.mapM receipt = .ok received) (files : Files key raws (held s.server))
      (written : Written key (fieldsOf received) (held s.server) (held server)) :
      Filing held ready key raws s (.error fault, { s with server })
  | lost {fault : Fault} {server : σ} (excused : ready s.server → ¬ Files key raws (held s.server))
      (data : held server = held s.server) : Filing held ready key raws s (.error fault, { s with server })

theorem receipts_of_files {data : Data} (files : Files key raws data) (read : raws.mapM receipt = .ok received) :
    ∀ r ∈ received, r.1.id.isSome := by
  intro r member
  obtain ⟨raw, inside, run⟩ := Outcome.exists_of_mem_of_mapM_eq_ok read member
  obtain ⟨m, form, same, given⟩ := files.receipts raw inside
  cases run.symm.trans same
  exact given

theorem files_of_receipts {data : Data} (read : raws.mapM receipt = .ok received)
    (named : ∀ r ∈ received, r.1.id.isSome) (hash : raws ≠ [] → (hashAt key data).isSome) : Files key raws data where
  receipts raw member := by
    obtain ⟨r, inside, run⟩ := Outcome.exists_of_mapM_eq_ok read member
    exact ⟨r.1, r.2, run, named r inside⟩
  hash := hash

theorem not_files_of_unread {fault : Fault} {data : Data} (read : raws.mapM receipt = .error fault) :
    ¬ Files key raws data := by
  intro files
  obtain ⟨received, all⟩ := Outcome.exists_mapM_eq_ok fun raw member =>
    (files.receipts raw member).elim fun m given => given.elim fun form read => ⟨(m, form), read.1⟩
  cases read.symm.trans all

theorem files_of_nothing {data : Data} (read : raws.mapM receipt = .ok []) : Files key raws data := by
  refine files_of_receipts read (List.forall_mem_nil _) fun some_taken => ?_
  obtain ⟨raw, member⟩ := List.exists_mem_of_ne_nil raws some_taken
  obtain ⟨r, nowhere, -⟩ := Outcome.exists_of_mapM_eq_ok read member
  cases nowhere

theorem file_of_unread {fault : Fault} (read : raws.mapM receipt = .error fault) :
    file key raws s = (.error fault, s) :=
  Action.bind_of_error (show Action.ofAttempt (raws.mapM receipt) s = (_, s) by rw [read]; rfl)

/-- What is left to do once the entries have been read. -/
theorem file_of_read (read : raws.mapM receipt = .ok received) : file key raws s =
    ((do
      let held : Table (Option String) Bytes := .ofList (received.map fun r => (r.1.id, r.2))
      if !held.isEmpty then onServer (ListClient.setFields key held.entries)
      return .ok (received.map Prod.fst)) : Action (Listed σ) (Outcome (List Message))) s :=
  Action.bind_of_ok (show Action.ofAttempt (raws.mapM receipt) s = (_, s) by rw [read]; rfl)

theorem file_settles (lawful : Lawful held ready) (key : String) (raws : List Bytes) (s : Listed σ) :
    Filing held ready key raws s (file key raws s) := by
  cases read : raws.mapM receipt with
  | error fault =>
    rw [file_of_unread read]
    exact .lost (fun _ => not_files_of_unread read) rfl
  | ok received =>
    by_cases nothing : received = []
    · subst nothing
      rw [show file key raws s = (.ok (.ok []), s) from (file_of_read read).trans rfl]
      exact .filed read (files_of_nothing read) (written_nil rfl) id
    let fields := (Table.ofList (received.map fun r => (r.1.id, r.2))).entries
    have filled : ¬ (Table.ofList (received.map fun r => (r.1.id, r.2))).isEmpty = true :=
      gathered_isEmpty_iff.not.mpr nothing
    have full : (Request.setFields key fields).Full := fun vacant => filled (List.isEmpty_iff.mpr vacant)
    have start : file key raws s = (onServer (ListClient.setFields key fields) >>= fun _ =>
        pure (.ok (received.map Prod.fst)) : Action (Listed σ) _) s :=
      (file_of_read read).trans (congrFun (if_pos (by simpa using filled)) s)
    have stays : ready s.server → ready (ListClient.setFields key fields s.server).2 := lawful.ready_request full
    rcases run : ListClient.setFields key fields s.server with ⟨fault | told, server⟩ <;> rw [run] at stays
    · rw [start.trans (Action.bind_of_error (onServer_apply run))]
      obtain ⟨excused, leads⟩ := lawful.request_eq_error full run
      rcases leads with same | ⟨answer, done⟩
      · refine .lost (fun start files => ?_) same
        obtain ⟨raw, member⟩ : ∃ raw, raw ∈ raws := by
          obtain ⟨r, inside⟩ := List.exists_mem_of_ne_nil received nothing
          exact (Outcome.exists_of_mem_of_mapM_eq_ok read inside).imp fun _ => And.left
        obtain ⟨known, there⟩ := Option.isSome_iff_exists.mp (files.hash (List.ne_nil_of_mem member))
        have named := named_gathered.mpr (receipts_of_files files read)
        cases (excused start).symm.trans (Request.setFields_run there named)
      · obtain ⟨there, named, written⟩ := written_of_run done
        exact .late (fun start => nomatch (excused start).symm.trans done) read
          (files_of_receipts read named fun _ => there) written
    · rw [start.trans ((Action.bind_of_ok (onServer_apply run)).trans rfl)]
      obtain ⟨answer, done, -⟩ := lawful.request_eq_ok full run
      obtain ⟨there, named, written⟩ := written_of_run done
      exact .filed read (files_of_receipts read named fun _ => there) written stays

theorem files_congr {data later : Data} (same : later key = data key) : Files key raws later ↔ Files key raws data := by
  have hash := ListClient.hashAt_congr same
  constructor
  · exact fun files => ⟨files.receipts, fun some_taken => hash ▸ files.hash some_taken⟩
  · exact fun files => ⟨files.receipts, fun some_taken => hash.symm ▸ files.hash some_taken⟩

/-- What a call does for a channel that is known. -/
def take (channel : String) (count : Nat) (names : Listed σ) : Action (Listed σ) (Outcome (List Message)) := do
  file (names.inFlightOf channel) (← onServer (ListClient.pop (names.pendingOf channel) count))

section

variable (held : σ → Data) (channel : String) (count : Nat) (s : Listed σ)

/-- The entries at the front of the list of a channel. -/
def front : List Bytes := (s.waiting held channel).take count

/-- The data of the server once they have been taken off. -/
def popped : Data :=
  ListClient.put (s.pendingOf channel) (.list ((s.waiting held channel).drop count)) (held s.server)

end

variable {count : Nat}

/-- What becomes of the entries at the front of a list. They are taken off before they are filed, so that those
which are not filed are lost; or they are left. -/
inductive Taking (held : σ → Data) (ready : σ → Prop) (channel : String) (count : Nat) (s : Listed σ) :
    Attempt (Outcome (List Message)) × Listed σ → Prop
  | filed {received : List (Message × Bytes)} {server : σ}
      (read : (front held channel count s).mapM receipt = .ok received)
      (files : Files (s.inFlightOf channel) (front held channel count s) (held s.server))
      (written : Written (s.inFlightOf channel) (fieldsOf received) (popped held channel count s) (held server))
      (stays : ready s.server → ready server) :
      Taking held ready channel count s (.ok (.ok (received.map Prod.fst)), { s with server })
  | late {fault : Fault} {received : List (Message × Bytes)} {server : σ} (excused : ¬ ready s.server)
      (read : (front held channel count s).mapM receipt = .ok received)
      (files : Files (s.inFlightOf channel) (front held channel count s) (held s.server))
      (written : Written (s.inFlightOf channel) (fieldsOf received) (popped held channel count s) (held server)) :
      Taking held ready channel count s (.error fault, { s with server })
  | lost {fault : Fault} {server : σ} (there : (listAt (s.pendingOf channel) (held s.server)).isSome)
      (excused : ready s.server → ¬ Files (s.inFlightOf channel) (front held channel count s) (held s.server))
      (dropped : held server = popped held channel count s) :
      Taking held ready channel count s (.error fault, { s with server })
  | left {fault : Fault} {server : σ} (excused : ready s.server → listAt (s.pendingOf channel) (held s.server) = none)
      (data : held server = held s.server) : Taking held ready channel count s (.error fault, { s with server })

omit [ListClient σ] in
theorem popped_of_run {answer : List Bytes} {data : Data}
    (done : (Request.pop (s.pendingOf channel) count).run (held s.server) = some (answer, data)) :
    (listAt (s.pendingOf channel) (held s.server)).isSome ∧ answer = front held channel count s ∧
      data = popped held channel count s := by
  obtain ⟨items, there, same⟩ := Option.bind_eq_some_iff.mp done
  cases same
  rw [front, popped, waiting, ListClient.itemsAt_eq there]
  exact ⟨Option.isSome_of_eq_some there, rfl, rfl⟩

theorem take_settles (lawful : Lawful held ready) (channel : String) {count : Nat} (some_wanted : 0 < count)
    (s : Listed σ) : Taking held ready channel count s (take channel count s s) := by
  have full : (Request.pop (s.pendingOf channel) count).Full := some_wanted
  have stays : ready s.server → ready (ListClient.pop (s.pendingOf channel) count s.server).2 :=
    lawful.ready_request full
  rcases run : ListClient.pop (s.pendingOf channel) count s.server with ⟨fault | raws, server⟩ <;> rw [run] at stays
  · rw [show take channel count s s = (.error fault, { s with server }) from
      Action.bind_of_error (onServer_apply run)]
    obtain ⟨excused, leads⟩ := lawful.request_eq_error full run
    rcases leads with same | ⟨answer, done⟩
    · refine .left (fun start => ?_) same
      cases there : listAt (s.pendingOf channel) (held s.server) with
      | none => rfl
      | some items => cases (excused start).symm.trans (Request.pop_run there count)
    · obtain ⟨there, -, dropped⟩ := popped_of_run done
      exact .lost there (fun start => nomatch (excused start).symm.trans done) dropped
  · rw [show take channel count s s = file (s.inFlightOf channel) raws { s with server } from
      Action.bind_of_ok (onServer_apply run)]
    obtain ⟨answer, done, rfl⟩ := lawful.request_eq_ok full run
    obtain ⟨there, rfl, dropped⟩ := popped_of_run done
    -- Taking entries off the list does nothing to the hash, so filing starts from the one before the call.
    have same : held server (s.inFlightOf channel) = held s.server (s.inFlightOf channel) := by
      rw [dropped]
      exact ListClient.put_of_ne Key.pending_ne_inFlight.symm _
    have filing := file_settles lawful (s.inFlightOf channel) (front held channel count s) { s with server }
    generalize file (s.inFlightOf channel) (front held channel count s) { s with server } = out at filing
    cases filing with
    | filed read files written stays' =>
      exact .filed read ((files_congr same).mp files) (dropped ▸ written) fun start => stays' (stays start)
    | late excused read files written =>
      exact .late (fun start => excused (stays start)) read ((files_congr same).mp files) (dropped ▸ written)
    | lost excused data =>
      exact .lost there (fun start files => excused (stays start) ((files_congr same).mpr files)) (data.trans dropped)

end Depot.Messenger.Listed
