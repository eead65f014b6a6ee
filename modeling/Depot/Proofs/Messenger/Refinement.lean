import Depot.Proofs.Messenger.Calls
import Depot.Proofs.Messenger.Listed.Keeping

namespace Depot.Messenger

open ListClient (Data Lawful)

variable {σ : Type}

/-- What is read from the collections of a server is what a messenger in memory holds. -/
structure Decodes (held : σ → Data) (m : Memory) (s : Listed σ) : Prop where
  channels : (ListClient.membersAt s.registry (held s.server)).mapM Listed.nameOf = .ok m.pending.keys
  queues : ∀ channel, ∃ read, (s.waiting held channel).mapM Envelope.read = .ok read ∧
    List.Forall₂ (fun a b => a.agrees b) (m.queue channel) read
  flights : ∀ channel, ∃ read,
    (s.flight held channel).entries.mapM (fun e => do return (← Listed.nameOf e.1, ← Envelope.read e.2)) =
        .ok read ∧
      List.Forall₂ (fun e r => e.1 = some r.1 ∧ e.2.agrees r.2) (m.held channel).entries read

/-- A messenger on a server holds what a messenger in memory does and draws the same identifiers, which are
short enough to be written. -/
structure Mirrors (held : σ → Data) (ready : σ → Prop) (m : Memory) (s : Listed σ) : Prop where
  keeps : s.Keeps held ready m.view
  ids : s.ids = m.ids
  paired : m.Paired
  short : ∀ n, (Utf8.encode (m.ids.nth n)).length < Envelope.wordLimit

variable {held : σ → Data} {ready : σ → Prop} {m : Memory} {s : Listed σ}

theorem Mirrors.decodes (mirrors : Mirrors held ready m s) : Decodes held m s where
  channels := by
    obtain ⟨members, there, keys⟩ := mirrors.keeps.laid.registry
    have parts : ListClient.membersAt s.registry (held s.server) = m.pending.keys.map Utf8.encode :=
      (ListClient.membersAt_eq there).trans keys
    rw [parts, Listed.mapM_nameOf]
  queues channel := by
    refine ⟨(m.queue channel).map fun m => { m with origin := none }, ?_, forall₂_map_right _ fun m _ =>
      agrees_without_origin m⟩
    rw [mirrors.keeps.waiting_eq, List.mapM_map]
    exact Outcome.mapM_of_forall_mem fun m member =>
      Envelope.read_form (mirrors.keeps.fits member)
  flights channel := by
    obtain ⟨fields, there, entries⟩ := mirrors.keeps.laid.inFlight channel
    have flight : s.flight held channel = fields := ListClient.fieldsAt_eq there
    have each : ∀ e ∈ (m.held channel).entries,
        ((fun f => do return (← Listed.nameOf f.1, ← Envelope.read f.2) : Bytes × Bytes → Attempt _) ∘
          heldField) e = .ok (e.1.getD "", { e.2 with origin := none }) := by
      intro e member
      have read := Envelope.read_form (mirrors.keeps.sound.held channel e member).2
      simp only [Function.comp_apply, heldField, ListClient.Request.fieldOf, Listed.nameOf_encode, read, bind,
        Except.bind]
      rfl
    refine ⟨(m.held channel).entries.map fun e => (e.1.getD "", { e.2 with origin := none }), ?_,
      forall₂_map_right _ fun e member => ⟨?_, agrees_without_origin e.2⟩⟩
    · rw [flight, entries, List.mapM_map]
      exact Outcome.mapM_of_forall_mem each
    · obtain ⟨id, given⟩ := Option.isSome_iff_exists.mp (mirrors.keeps.sound.held channel e member).1
      rw [given, Option.getD_some]

theorem nothing_mirrored (start : ready s.server) (reachable : s.Reachable) (vacant : held s.server = fun _ => none)
    (short : ∀ n, (Utf8.encode (s.ids.nth n)).length < Envelope.wordLimit) :
    Mirrors held ready { ids := s.ids } s where
  keeps := ⟨start, reachable,
    ⟨.nil, fun _ _ nowhere => (nomatch nowhere), fun _ _ nowhere => (nomatch nowhere)⟩,
    vacant ▸ View.LaidOut.nothing _⟩
  ids := rfl
  paired := rfl
  short := short

theorem fits_stamp {ids : Supply} (short : ∀ n, (Utf8.encode (ids.nth n)).length < Envelope.wordLimit)
    {m : Message} (fits : Envelope.Fits m.receive) : Envelope.Fits (stamp ids m).1.receive := by
  unfold stamp
  cases given : m.id with
  | some id => exact fits
  | none =>
    refine ⟨fits.received, fun id same => ?_, fits.content, fits.count, fits.properties⟩
    cases same
    exact short ids.drawn

theorem fits_stampAll {ids : Supply} (short : ∀ n, (Utf8.encode (ids.nth n)).length < Envelope.wordLimit)
    {messages : List Message} (fits : ∀ m ∈ messages, Envelope.Fits m.receive) :
    ∀ m ∈ (stampAll ids messages).1, Envelope.Fits m.receive := by
  induction messages generalizing ids with
  | nil => exact fun m nowhere => nomatch nowhere
  | cons m rest ih =>
    obtain ⟨atHead, inTail⟩ := List.forall_mem_cons.mp fits
    rw [stampAll_cons, List.forall_mem_cons]
    refine ⟨fits_stamp short atHead, ih (fun n => ?_) inTail⟩
    rw [(stamp_grows ids m).nth]
    exact short n

/-- The same call on both sides is answered alike, and what they hold stays the same. -/
def Matches [ListClient σ] (held : σ → Data) (ready : σ → Prop) (call : Call) (m : Memory) (s : Listed σ) : Prop :=
  SameAnswer (call.on memory m).1 (call.on listed s).1 ∧
    Mirrors held ready (call.on memory m).2 (call.on listed s).2

section

variable [ListClient σ]

theorem matches_of_runs {call : Call} {after : Memory} {later : Listed σ} {left right : Outcome Reply}
    (inMemory : call.on memory m = (.ok left, after)) (onServer : call.on listed s = (.ok right, later))
    (same : SameAnswer (.ok left) (.ok right)) (mirrors : Mirrors held ready after later) :
    Matches held ready call m s := by
  rw [Matches, inMemory, onServer]
  exact ⟨same, mirrors⟩

namespace Mirrors

variable (lawful : Lawful held ready)
include lawful

theorem createChannels (mirrors : Mirrors held ready m s) (names : List String) :
    Matches held ready (.createChannels names) m s := by
  obtain ⟨later, run, ids, keeps⟩ := mirrors.keeps.createChannels lawful names
  have inMemory : (Call.createChannels names).on memory m = (.ok (.ok .done), m.createChannels names) := rfl
  have same := Memory.ids_createChannels names m
  refine matches_of_runs inMemory (answering_of_ok run) (.success .done) ⟨?_, ?_, ?_, ?_⟩
  · rw [Memory.view_createChannels]
    exact keeps
  · rw [ids, mirrors.ids, same]
  · exact Memory.paired_createChannels mirrors.paired names
  · rw [same]
    exact mirrors.short

theorem channels (mirrors : Mirrors held ready m s) : Matches held ready .channels m s := by
  obtain ⟨later, run, ids, keeps⟩ := mirrors.keeps.channels lawful
  have inMemory : Call.channels.on memory m = (.ok (.ok (.channels m.channels)), m) := rfl
  exact matches_of_runs inMemory (answering_of_ok run) (.success (.channels _))
    ⟨keeps, ids.trans mirrors.ids, mirrors.paired, mirrors.short⟩

theorem deleteChannels (mirrors : Mirrors held ready m s) (names : List String) :
    Matches held ready (.deleteChannels names) m s := by
  obtain ⟨later, run, ids, keeps⟩ := mirrors.keeps.deleteChannels lawful names
  have inMemory : (Call.deleteChannels names).on memory m = (.ok (.ok .done), m.deleteChannels names) := rfl
  refine matches_of_runs inMemory (answering_of_ok run) (.success .done)
    ⟨?_, ids.trans mirrors.ids, Memory.paired_deleteChannels mirrors.paired names, mirrors.short⟩
  rw [Memory.view_deleteChannels]
  exact keeps

theorem count (mirrors : Mirrors held ready m s) (channel : String) : Matches held ready (.count channel) m s := by
  obtain ⟨later, run, ids, keeps⟩ := mirrors.keeps.count lawful channel
  have inMemory : (Call.count channel).on memory m = (.ok ((m.count channel).map .count), m) := rfl
  rw [Memory.count_eq] at inMemory
  exact matches_of_runs inMemory (answering_of_ok run) (sameAnswer_ofKnown (.count _))
    ⟨keeps, ids.trans mirrors.ids, mirrors.paired, mirrors.short⟩

theorem send (mirrors : Mirrors held ready m s) (channel : String) {messages : List Message}
    (fits : ∀ m ∈ messages, Envelope.Fits m.receive) : Matches held ready (.send channel messages) m s := by
  have stamped := fits_stampAll mirrors.short fits
  rw [← mirrors.ids] at stamped
  obtain ⟨later, run, ids, keeps⟩ := mirrors.keeps.send lawful channel stamped
  rw [mirrors.ids] at ids keeps
  have inMemory : (Call.send channel messages).on memory m = (.ok (.ok .done), m.send channel messages) := rfl
  refine matches_of_runs inMemory (answering_of_ok run) (.success .done)
    ⟨?_, ids, Memory.paired_send mirrors.paired channel messages, fun n => ?_⟩
  · rw [Memory.view_send]
    exact keeps
  · rw [(Memory.ids_grow_send channel messages m).nth]
    exact mirrors.short n

theorem receive (mirrors : Mirrors held ready m s) (channel : String) {limit : Int} (wanted : 1 ≤ limit) :
    Matches held ready (.receive channel limit) m s := by
  by_cases known : channel ∈ m.view.names
  · obtain ⟨later, run, ids, keeps⟩ := mirrors.keeps.receive_known lawful known (show 0 < limit by omega)
    obtain ⟨held, found, received⟩ := Memory.receive_known mirrors.paired known limit
    refine matches_of_runs (answering_of_ok received) (answering_of_ok run)
      (.success (.messages (forall₂_map_right _ fun m _ => agrees_without_origin m)))
      ⟨?_, ids.trans mirrors.ids, Memory.paired_taken mirrors.paired known _ held, mirrors.short⟩
    rw [Memory.view_taken known found]
    exact keeps
  · obtain ⟨later, run, ids, keeps⟩ := mirrors.keeps.receive_unknown lawful known (show 0 < limit by omega)
    exact matches_of_runs (answering_of_ok (Memory.receive_unknown known limit)) (answering_of_ok run)
      (.failure _) ⟨keeps, ids.trans mirrors.ids, mirrors.paired, mirrors.short⟩

theorem peek (mirrors : Mirrors held ready m s) (channel : String) {limit : Int} (wanted : 1 ≤ limit) :
    Matches held ready (.peek channel limit) m s := by
  obtain ⟨later, run, ids, keeps⟩ := mirrors.keeps.peek lawful channel (show 0 < limit by omega)
  have inMemory : (Call.peek channel limit).on memory m =
      (.ok ((m.peek channel limit).map .messages), m) := rfl
  rw [Memory.peek_eq] at inMemory
  exact matches_of_runs inMemory (answering_of_ok run)
    (sameAnswer_ofKnown (.messages (forall₂_map_right _ fun m _ => agrees_without_origin m)))
    ⟨keeps, ids.trans mirrors.ids, mirrors.paired, mirrors.short⟩

theorem delete (mirrors : Mirrors held ready m s) (channel : String) (ids : List String) :
    Matches held ready (.delete channel ids) m s := by
  obtain ⟨later, run, same, keeps⟩ := mirrors.keeps.delete lawful channel ids
  have inMemory : (Call.delete channel ids).on memory m = (.ok (.ok .done), m.delete channel ids) := rfl
  refine matches_of_runs inMemory (answering_of_ok run) (.success .done)
    ⟨?_, same.trans mirrors.ids, Memory.paired_delete mirrors.paired channel ids, mirrors.short⟩
  rw [Memory.view_delete]
  exact keeps

theorem step (mirrors : Mirrors held ready m s) {call : Call} (within : call.Within) : Matches held ready call m s := by
  cases call with
  | createChannels names => exact mirrors.createChannels lawful names
  | channels => exact mirrors.channels lawful
  | deleteChannels names => exact mirrors.deleteChannels lawful names
  | count channel => exact mirrors.count lawful channel
  | send channel messages => exact mirrors.send lawful channel within
  | receive channel limit => exact mirrors.receive lawful channel within
  | peek channel limit => exact mirrors.peek lawful channel within
  | delete channel ids => exact mirrors.delete lawful channel ids

end Mirrors

theorem run_mirrored (lawful : Lawful held ready) (mirrors : Mirrors held ready m s) {calls : List Call}
    (within : ∀ call ∈ calls, call.Within) :
    List.Forall₂ (fun left right => SameAnswer left.1 right.1 ∧ Decodes held left.2 right.2)
      (run memory calls m) (run listed calls s) := by
  -- What is mirrored is kept by every call, so that the next one starts from it.
  induction calls generalizing m s with
  | nil => exact .nil
  | cons call rest ih =>
    obtain ⟨atHead, inTail⟩ := List.forall_mem_cons.mp within
    obtain ⟨same, later⟩ := mirrors.step lawful atHead
    exact .cons ⟨same, later.decodes⟩ (ih later inTail)

/-- From nothing, any calls are answered alike by a messenger on a server whose calls do not fail and by one in
memory with the same supply of identifiers, and after each of them the server holds what the other does. -/
theorem listed_refines_memory (lawful : Lawful held ready) (start : ready s.server) (reachable : s.Reachable)
    (vacant : held s.server = fun _ => none) (short : ∀ n, (Utf8.encode (s.ids.nth n)).length < Envelope.wordLimit)
    {calls : List Call} (within : ∀ call ∈ calls, call.Within) :
    List.Forall₂ (fun left right => SameAnswer left.1 right.1 ∧ Decodes held left.2 right.2)
      (run memory calls { ids := s.ids }) (run listed calls s) :=
  run_mirrored lawful (nothing_mirrored start reachable vacant short) within

end

def chatter : List Call :=
  [.createChannels ["x"],
    .send "x" [{ content := [1] }, { content := [2], origin := some "k" }, { content := [3] }],
    .peek "x" 1, .receive "x" 2, .delete "x" ["a"], .receive "y" 1, .channels, .deleteChannels ["x"],
    .count "x"]

theorem listed_refines_memory_chatter :
    let s : Listed ListServer := { settings := {}, ids := .cycle ["a", "b"], server := {} }
    List.Forall₂ (fun left right => SameAnswer left.1 right.1 ∧ Decodes ListServer.data left.2 right.2)
        (run memory chatter { ids := s.ids }) (run listed chatter s) ∧
      (run listed chatter s)[3]?.map Prod.fst = some (.ok (.ok (.messages
        [{ content := [1], id := some "a", received := 1 },
          { content := [2], id := some "b", received := 1 }]))) ∧
      (run listed chatter s)[8]?.map Prod.fst = some (.ok (.error (.channelNotFound "x"))) := by
  have short (n : Nat) : (Utf8.encode ((Supply.cycle ["a", "b"]).nth n)).length < Envelope.wordLimit := by
    rcases Nat.mod_two_eq_zero_or_one n with even | odd
    · simp only [Supply.cycle, List.length_cons, List.length_nil, even]
      decide
    · simp only [Supply.cycle, List.length_cons, List.length_nil, odd]
      decide
  have within : ∀ call ∈ chatter, call.Within := by decide
  exact ⟨listed_refines_memory ListServer.lawful trivial (.inr ⟨_, rfl⟩) rfl short within, rfl, rfl⟩

end Depot.Messenger
