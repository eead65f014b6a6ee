import Depot.Proofs.Message.Envelope.Reading
import Depot.Proofs.Messenger.Listed.Receiving
import Depot.Proofs.Messenger.Postings

namespace Depot.Messenger

theorem drop_length_take {α : Type} (l : List α) (n : Nat) : l.drop (l.take n).length = l.drop n := by
  rw [List.length_take]
  rcases Nat.le_total n l.length with within | beyond
  · rw [Nat.min_eq_left within]
  · rw [Nat.min_eq_right beyond, List.drop_length, List.drop_eq_nil_of_le beyond]

namespace Memory

theorem paired_stateAfter {m : Memory} (paired : m.Paired) (calls : List Call) :
    (stateAfter memory calls m).Paired :=
  stateAfter_of_step (P := Paired) (fun _ before call => paired_on before call) paired calls

/-- The front of the queue is shown, and it is what the next call takes. -/
theorem peek_foretells {m : Memory} (paired : m.Paired) {channel : String} (known : channel ∈ m.view.names)
    (limit : Int) :
    ∃ shown later, memory.peek channel limit m = (.ok (.ok shown), m) ∧
      memory.receive channel limit m = (.ok (.ok (shown.map Message.receive)), later) ∧
      later.queue channel = (m.queue channel).drop shown.length := by
  obtain ⟨held, -, received⟩ := receive_known paired known limit
  have front : m.peek channel limit = .ok ((m.queue channel).take limit.toNat) := by
    rw [peek_eq, View.ofKnown, if_pos known]
  refine ⟨(m.queue channel).take limit.toNat, m.taken channel limit.toNat held, ?_, received, ?_⟩
  · change (Except.ok (m.peek channel limit), m) = _
    rw [front]
  · rw [queue_taken, if_pos rfl, drop_length_take]

end Memory

namespace Listed

open ListClient (Data Lawful Request hashAt listAt)

section

variable {σ : Type} {held : σ → Data} {ready : σ → Prop} {s : Listed σ} {channel : String}

/-- Every entry that waits in a channel is a message with an identifier and with room for one more receipt. -/
def Intact (held : σ → Data) (channel : String) (s : Listed σ) : Prop :=
  ∀ raw ∈ s.waiting held channel,
    ∃ m, Envelope.read raw = .ok m ∧ m.id.isSome ∧ m.received + 1 < Envelope.wordLimit

theorem receipt_of_read {raw : Bytes} {m : Message} (read : Envelope.read raw = .ok m)
    (room : m.received + 1 < Envelope.wordLimit) : receipt raw = .ok (m.receive, Envelope.form m.receive) := by
  have fits := (Envelope.laid_of_parse (Envelope.read_eq_ok_iff.mp read)).fits
  have written : Envelope.write m.receive = .ok (Envelope.form m.receive) :=
    Envelope.write_eq ⟨room, fits.id, fits.content, fits.count, fits.properties⟩
  rw [receipt, read]
  simp only [bind, Except.bind, written]
  rfl

theorem Intact.receipts (intact : s.Intact held channel) {count : Nat} {shown : List Message}
    (read : ((s.waiting held channel).take count).mapM Envelope.read = .ok shown) :
    ((s.waiting held channel).take count).mapM receipt =
      .ok (shown.map fun m => (m.receive, Envelope.form m.receive)) := by
  have each : ∀ raw ∈ (s.waiting held channel).take count, ∀ m, Envelope.read raw = .ok m →
      receipt raw = .ok (m.receive, Envelope.form m.receive) := by
    intro raw member m same
    obtain ⟨found, known, -, room⟩ := intact raw (List.mem_of_mem_take member)
    cases known.symm.trans same
    exact receipt_of_read same room
  rw [Outcome.mapM_eq_ok_iff, List.forall₂_map_right_iff]
  have both := (List.forall₂_and_left _ _).mpr ⟨each, Outcome.mapM_eq_ok_iff.mp read⟩
  exact both.imp fun raw m found => found.1 m found.2

theorem Intact.files (intact : s.Intact held channel)
    (hash : (hashAt (s.inFlightOf channel) (held s.server)).isSome) (count : Nat) :
    Files (s.inFlightOf channel) ((s.waiting held channel).take count) (held s.server) where
  receipts raw member := by
    obtain ⟨m, read, given, room⟩ := intact raw (List.mem_of_mem_take member)
    exact ⟨m.receive, _, receipt_of_read read room, given⟩
  hash _ := hash

theorem Intact.reads (intact : s.Intact held channel) (count : Nat) :
    ∃ shown, ((s.waiting held channel).take count).mapM Envelope.read = .ok shown :=
  Outcome.exists_mapM_eq_ok fun raw member =>
    (intact raw (List.mem_of_mem_take member)).imp fun _ found => found.1

/-- A channel is known and its entries are a list. -/
structure Lists (held : σ → Data) (channel : String) (s : Listed σ) : Prop where
  known : s.IsRegistered held channel
  list : (listAt (s.pendingOf channel) (held s.server)).isSome

theorem lists_congr {later : Listed σ} (settings : later.settings = s.settings)
    (data : held later.server = held s.server) : later.Lists held channel ↔ s.Lists held channel := by
  have registered : later.IsRegistered held channel ↔ s.IsRegistered held channel := isRegistered_congr settings data
  have list : (listAt (later.pendingOf channel) (held later.server)).isSome ↔
      (listAt (s.pendingOf channel) (held s.server)).isSome := by rw [pendingOf_congr settings, data]
  exact ⟨fun lists => ⟨registered.mp lists.known, list.mp lists.list⟩,
    fun lists => ⟨registered.mpr lists.known, list.mpr lists.list⟩⟩

end

variable {σ : Type} [ListClient σ] {held : σ → Data} {ready : σ → Prop} {s : Listed σ} {channel : String} {limit : Int}

/-- What a call does that looks at a channel and has a client. -/
def look (names : Listed σ) (channel : String) (count : Nat) : Action (Listed σ) (Outcome (List Message)) :=
  (ifKnown channel).onSuccess fun _ => do
    let raws ← onServer (ListClient.front (names.pendingOf channel) count)
    return .ok (← .ofAttempt (raws.mapM Envelope.read))

section

variable (lawful : Lawful held ready)
include lawful

/-- The front of a list is told as it stands, and nothing of a collection of another kind. -/
theorem front_settles (start : ready s.server) {count : Nat} (some_wanted : 0 < count) (key : String) :
    ∃ result server, onServer (ListClient.front key count) s = (result, { s with server }) ∧
      held server = held s.server ∧ ready server ∧
      ∀ raws, result = .ok raws ↔ (listAt key (held s.server)).map (·.take count) = some raws := by
  have full : (Request.front key count).Full := some_wanted
  cases there : listAt key (held s.server) with
  | some items =>
    obtain ⟨told, server, asked, same, left, stays⟩ := ask_of_ready lawful full start (Request.front_run there count)
    refine ⟨.ok told, server, asked, left, stays, fun raws => ?_⟩
    rw [show told = _ from same]
    simp
  | none =>
    have refused : (Request.front key count).run (held s.server) = none := by
      rw [Request.run, there]
      rfl
    have stays := lawful.ready_request full start
    rcases run : ListClient.front key count s.server with ⟨fault | told, server⟩
    · rw [show ListClient.request (.front key count) s.server = _ from run] at stays
      obtain ⟨-, leads⟩ := lawful.request_eq_error full run
      refine ⟨.error fault, server, onServer_apply run, ?_, stays, fun raws => by simp⟩
      refine leads.resolve_right ?_
      rintro ⟨answer, done⟩
      cases refused.symm.trans done
    · obtain ⟨answer, done, -⟩ := lawful.request_eq_ok full run
      cases refused.symm.trans done

/-- Looking does nothing but ask, and shows messages if they are at the front of a list. -/
theorem look_settles (start : ready s.server) (channel : String) {count : Nat} (some_wanted : 0 < count) :
    ∃ result server, s.look channel count s = (result, { s with server }) ∧ held server = held s.server ∧
      ready server ∧ ∀ shown, result = .ok (.ok shown) ↔
        s.Lists held channel ∧ ((s.waiting held channel).take count).mapM Envelope.read = .ok shown := by
  have asked := ifKnown_asked lawful channel s
  rcases answer : ifKnown channel s with ⟨fault | e | _, middle⟩ <;> rw [answer] at asked
  · cases asked with
    | @failed _ server excused data stays =>
      refine ⟨.error fault, server, Action.onSuccess_of_fault answer, data, stays start, fun shown => ?_⟩
      have idle : ¬ s.Lists held channel := fun lists => not_isRegistered_of_none (excused start) lists.known
      simp [idle]
  · cases asked with
    | @unknown server absent data stays =>
      refine ⟨_, server, Action.onSuccess_of_error answer, data, stays start, fun shown => ?_⟩
      have idle : ¬ s.Lists held channel := fun lists => absent lists.known
      simp [idle]
  · cases asked with
    | @known server member data stays =>
      obtain ⟨result, later, run, same, stays, tells⟩ :=
        front_settles lawful (s := { s with server }) (stays start) some_wanted (s.pendingOf channel)
      rw [show held ({ s with server } : Listed σ).server = held s.server from data] at tells same
      have looked : s.look channel count s = ((do
          let raws ← onServer (ListClient.front (s.pendingOf channel) count)
          return .ok (← .ofAttempt (raws.mapM Envelope.read)) : Action (Listed σ) (Outcome (List Message))))
            { s with server } := Action.onSuccess_of_ok answer
      cases result with
      | error fault =>
        refine ⟨.error fault, later, looked.trans (Action.bind_of_error run), same, stays, fun shown => ?_⟩
        have nothing : listAt (s.pendingOf channel) (held s.server) = none := by
          cases there : listAt (s.pendingOf channel) (held s.server) with
          | none => rfl
          | some items => cases (tells (items.take count)).mpr (by rw [there]; rfl)
        have idle : ¬ s.Lists held channel := fun lists => by
          have list := lists.list
          rw [nothing] at list
          cases list
        simp [idle]
      | ok raws =>
        obtain ⟨items, there, rfl⟩ := Option.map_eq_some_iff.mp ((tells raws).mp rfl)
        have lists : s.Lists held channel := ⟨member, Option.isSome_of_eq_some there⟩
        have waits : s.waiting held channel = items := ListClient.itemsAt_eq there
        refine ⟨((items.take count).mapM Envelope.read).map .ok, later, looked.trans ((Action.bind_of_ok run).trans ?_),
          same, stays, fun shown => ?_⟩
        · cases (items.take count).mapM Envelope.read <;> rfl
        · rw [waits]
          cases (items.take count).mapM Envelope.read <;> simp [Except.map, lists]

/-- What a look at a channel answers, and what it does. Something is shown if there is a client: nothing, if nothing is
wanted, and otherwise the messages at the front of a list. Nothing is changed. -/
theorem peek_settles (start : ready s.server) (channel : String) (limit : Int) :
    ∃ answer peeked, listed.peek channel limit s = (.ok answer, peeked) ∧ Rests held ready s peeked ∧
      (s.Reachable → peeked.isOpen = true) ∧
      ∀ shown, answer = .ok shown ↔ s.Reachable ∧ (limit ≤ 0 ∧ shown = [] ∨
        0 < limit ∧ s.Lists held channel ∧
          ((s.waiting held channel).take limit.toNat).mapM Envelope.read = .ok shown) := by
  by_cases reachable : s.Reachable
  · obtain ⟨opened, connected, reached⟩ := exists_reached lawful start reachable
    have run : listed.peek channel limit s = if limit ≤ 0 then (.ok (.ok []), opened) else
        (opened.look channel limit.toNat).reporting (transport "peek" (some channel)) opened :=
      asking_of_connected connected "peek" channel limit fun names => do
        let raws ← onServer (ListClient.front (names.pendingOf channel) limit.toNat)
        return .ok (← .ofAttempt (raws.mapM Envelope.read))
    by_cases unwanted : limit ≤ 0
    · refine ⟨.ok [], opened, run.trans (if_pos unwanted), reached.toRests, fun _ => reached.isOpen, fun shown => ?_⟩
      simp [reachable, unwanted, Int.not_lt.mpr unwanted, eq_comm]
    · rw [if_neg unwanted] at run
      obtain ⟨result, server, looked, data, stays, shows⟩ :=
        look_settles lawful (reached.ready start) channel (show 0 < limit.toNat by omega)
      rw [lists_congr reached.settings reached.data,
        (untouched_of_data opened reached.settings reached.data channel).waiting] at shows
      obtain ⟨answer, answered, same⟩ := Action.reporting_settles (transport "peek" (some channel)) looked
      refine ⟨answer, _, run.trans answered, ⟨reached.settings, reached.ids, data.trans reached.data, fun _ => stays⟩,
        fun _ => reached.isOpen, fun shown => ?_⟩
      rw [same, shows]
      simp [reachable, unwanted, Int.not_le.mp unwanted]
  · have rests := rests_connect lawful s
    rcases connected : connect s with ⟨fault | e | _, later⟩ <;> rw [connected] at rests
    · exact absurd start (not_ready_of_strands lawful (connect_eq_error_iff.mp (congrArg Prod.fst connected)))
    · exact ⟨.error e, later, Action.onSuccess_of_error connected, rests, fun there => absurd there reachable,
        fun shown => by simp [reachable]⟩
    · exact absurd (reachable_of_connect connected) reachable

/-- The messages that were seen at the front of a list are received from it. -/
theorem receive_of_seen (start : ready s.server) (isOpen : s.isOpen = true)
    (hash : (hashAt (s.inFlightOf channel) (held s.server)).isSome) (intact : s.Intact held channel)
    (wanted : 0 < limit) (lists : s.Lists held channel) {shown : List Message}
    (read : ((s.waiting held channel).take limit.toNat).mapM Envelope.read = .ok shown) :
    ∃ later, listed.receive channel limit s = (.ok (.ok (shown.map Message.receive)), later) ∧
      later.waiting held channel = (s.waiting held channel).drop limit.toNat := by
  have takes : s.Takes held channel limit := ⟨.inl isOpen, wanted, lists.known, lists.list⟩
  obtain ⟨received, later, run, filed⟩ := filed_of_ready lawful start takes (intact.files hash limit.toNat)
  cases filed.read.symm.trans (intact.receipts read)
  refine ⟨later, run.trans ?_, filed.waiting⟩
  rw [List.map_map]
  rfl

/-- What is shown is what is received next. -/
theorem peek_foretells (start : ready s.server) (hash : (hashAt (s.inFlightOf channel) (held s.server)).isSome)
    (intact : s.Intact held channel) {peeked : Listed σ} (rests : Rests held ready s peeked)
    (isOpen : peeked.isOpen = true) {shown : List Message} (shows : limit ≤ 0 ∧ shown = [] ∨
      0 < limit ∧ s.Lists held channel ∧ ((s.waiting held channel).take limit.toNat).mapM Envelope.read = .ok shown) :
    ∃ later, listed.receive channel limit peeked = (.ok (.ok (shown.map Message.receive)), later) ∧
      later.waiting held channel = (s.waiting held channel).drop shown.length := by
  have same := untouched_of_data peeked rests.settings rests.data channel
  rcases shows with ⟨unwanted, rfl⟩ | ⟨wanted, lists, read⟩
  · obtain ⟨next, receive⟩ := receive_eq_asking (σ := σ) channel limit
    refine ⟨peeked, ?_, same.waiting⟩
    rw [receive, asking_of_none isOpen unwanted]
    rfl
  · have seen := (Outcome.mapM_eq_ok_iff.mp read).length_eq
    rw [← same.waiting] at read
    have there := (inFlightOf_congr rests.settings channel).symm ▸ rests.data.symm ▸ hash
    obtain ⟨later, run, left⟩ := receive_of_seen lawful (rests.ready start) isOpen there
      (fun raw member => intact raw (same.waiting ▸ member)) wanted ((lists_congr rests.settings rests.data).mpr lists)
      read
    exact ⟨later, run, by rw [left, same.waiting, ← seen, drop_length_take]⟩

end
end Listed

/-- A look at a channel foretells what is received. In memory, in every state that a run comes to, the front of the
queue of a channel is shown. On a server where no call fails, a look does nothing to the data. It shows something of
any list of a channel that is known, if a client is there or can be made. What is shown, on either, is what the next
call receives for the same limit, each message with one more receipt, and so many entries have then gone from the
front. On a server the entries have to be messages with identifiers and room for one more receipt, and those in flight
a hash, for the call to be able to file them. -/
theorem seen_then_received :
    (∀ (calls : List Call) (ids : Supply) (m : Memory), stateAfter memory calls { ids } = m →
      ∀ channel ∈ m.channels, ∀ limit, ∃ shown later,
        memory.peek channel limit m = (.ok (.ok shown), m) ∧
        memory.receive channel limit m = (.ok (.ok (shown.map Message.receive)), later) ∧
        later.queue channel = (m.queue channel).drop shown.length) ∧
    ∀ {σ : Type} [ListClient σ] {held : σ → ListClient.Data} {ready : σ → Prop}, ListClient.Lawful held ready →
      ∀ s : Listed σ, ready s.server → ∀ channel,
        (ListClient.hashAt (s.inFlightOf channel) (held s.server)).isSome → s.Intact held channel →
          ∀ limit, ∃ answer peeked, listed.peek channel limit s = (.ok answer, peeked) ∧
            peeked.settings = s.settings ∧ held peeked.server = held s.server ∧
            (∀ shown, answer = .ok shown → ∃ later,
              listed.receive channel limit peeked = (.ok (.ok (shown.map Message.receive)), later) ∧
              later.waiting held channel = (s.waiting held channel).drop shown.length) ∧
            (s.Reachable → s.Lists held channel → ∃ shown, answer = .ok shown) := by
  constructor
  · rintro calls ids m rfl channel known limit
    have paired : (stateAfter memory calls { ids }).Paired := Memory.paired_stateAfter (m := { ids }) rfl calls
    exact Memory.peek_foretells paired (Memory.mem_channels.mp known) limit
  · intro σ _ held ready lawful s start channel hash intact limit
    obtain ⟨answer, peeked, run, rests, isOpen, shows⟩ := Listed.peek_settles lawful start channel limit
    refine ⟨answer, peeked, run, rests.settings, rests.data, fun shown same => ?_, fun reachable lists => ?_⟩
    · obtain ⟨reachable, seen⟩ := (shows shown).mp same
      exact Listed.peek_foretells lawful start hash intact rests (isOpen reachable) seen
    · obtain ⟨shown, read⟩ := intact.reads limit.toNat
      rcases Int.lt_or_le 0 limit with wanted | unwanted
      · exact ⟨shown, (shows shown).mpr ⟨reachable, .inr ⟨wanted, lists, read⟩⟩⟩
      · exact ⟨[], (shows []).mpr ⟨reachable, .inl ⟨unwanted, rfl⟩⟩⟩

/-- A message that has room for one more receipt, and for no other after it. -/
def weary : Message := { content := [98], id := some "m2", received := Envelope.wordLimit - 2 }

/-- A messenger without a client, and a channel in which two messages wait. -/
def stocked : Listed ListServer where
  settings := {}
  server := Listed.stocked [Envelope.form weary, Envelope.form Listed.sound]

/-- A messenger in memory to which two messages have been sent. -/
def supplied : Memory :=
  stateAfter memory [.send "jobs" [{ content := [1] }, { content := [2] }]] { ids := .cycle ["a", "b"] }

theorem seen_then_received_stocked :
    (memory.peek "jobs" 1 supplied = (.ok (.ok [{ content := [1], id := some "a" }]), supplied) ∧
      ∃ later,
        memory.receive "jobs" 1 supplied = (.ok (.ok [{ content := [1], id := some "a", received := 1 }]), later) ∧
        later.queue "jobs" = [{ content := [2], id := some "b" }]) ∧
    ∃ peeked, listed.peek "jobs" 1 stocked = (.ok (.ok [weary]), peeked) ∧
      ∃ later, listed.receive "jobs" 1 peeked = (.ok (.ok [weary.receive]), later) ∧
        later.waiting ListServer.data "jobs" = [Envelope.form Listed.sound] := by
  obtain ⟨inMemory, onServer⟩ := seen_then_received
  constructor
  · obtain ⟨shown, later, seen, received, left⟩ :=
      inMemory _ _ supplied rfl "jobs" (Memory.mem_channels.mpr (by decide)) 1
    have front : memory.peek "jobs" 1 supplied = (.ok (.ok [{ content := [1], id := some "a" }]), supplied) := rfl
    cases seen.symm.trans front
    exact ⟨front, later, received, left⟩
  · have intact : stocked.Intact ListServer.data "jobs" := by
      intro raw member
      rcases List.mem_cons.mp member with rfl | other
      · exact ⟨weary, rfl, rfl, by decide⟩
      · obtain rfl := List.mem_singleton.mp other
        exact ⟨Listed.sound, rfl, rfl, by decide⟩
    obtain ⟨answer, peeked, seen, -, -, received, -⟩ :=
      onServer ListServer.lawful stocked trivial "jobs" rfl intact 1
    have shown : listed.peek "jobs" 1 stocked = (.ok (.ok [weary]), _) := rfl
    cases seen.symm.trans shown
    obtain ⟨later, run, left⟩ := received [weary] rfl
    exact ⟨_, shown, later, run, left⟩

end Depot.Messenger
