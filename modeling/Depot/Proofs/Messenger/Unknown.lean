import Depot.Proofs.Messenger.Listed.Namespaces
import Depot.Proofs.Messenger.Listed.Taking

namespace Depot.Messenger

namespace Memory

variable {m : Memory} {channel : String}

theorem waiting_unknown (unknown : channel ∉ m.channels) : m.waiting channel = .error (.channelNotFound channel) := by
  rw [waiting_eq, View.ofKnown, if_neg (mt mem_channels.mpr unknown)]

end Memory

/-- A call answers that there is no such channel, and leaves the second state when it finds the first. -/
def Refuses {σ α : Type} (channel : String) (s later : σ) (act : Action σ (Outcome α)) : Prop :=
  act s = (.ok (.error (.channelNotFound channel)), later)

theorem memory_refuses {m : Memory} {channel : String} (unknown : channel ∉ m.channels) (limit : Int) :
    Refuses channel m m (memory.count channel) ∧ Refuses channel m m (memory.receive channel limit) ∧
      Refuses channel m m (memory.peek channel limit) := by
  have waiting := Memory.waiting_unknown unknown
  refine ⟨?_, Memory.receive_unknown (mt Memory.mem_channels.mpr unknown) limit, ?_⟩
  · change (Except.ok (m.count channel), m) = _
    rw [Memory.count, waiting]
    rfl
  · change (Except.ok (m.peek channel limit), m) = _
    rw [Memory.peek, waiting]
    rfl

namespace Listed

open ListClient (Data Lawful Names Request)

/-- The states that a messenger comes to on a server that holds nothing at first. What is going to become of calls to
the server may change at any time. -/
inductive Arises {σ : Type} [ListClient σ] (held : σ → Data) : Listed σ → Prop
  | start {s : Listed σ} (vacant : held s.server = fun _ => none) : Arises held s
  | step {s : Listed σ} (before : Arises held s) (step : Step) : Arises held (step.on s).2
  | elsewhere {s : Listed σ} (before : Arises held s) {server : σ} (same : held server = held s.server) :
      Arises held { s with server }

/-- A channel is refused, and the collections of the server stay as they are. -/
def Rejects {σ α : Type} (held : σ → Data) (channel : String) (s : Listed σ)
    (act : Action (Listed σ) (Outcome α)) : Prop :=
  ∃ server, Refuses channel s { s with server } act ∧ held server = held s.server

variable {σ α : Type} [ListClient σ] {held : σ → Data} {ready : σ → Prop} {s : Listed σ} {channel : String}

theorem connected_of_open (opened : s.isOpen = true) (operation : String) (about : Option String)
    (act : Listed σ → Action (Listed σ) (Outcome α)) :
    connected operation about act s = (act s).reporting (transport operation about) s :=
  (Action.onSuccess_of_ok (connect_of_open opened)).trans rfl

variable (lawful : Lawful held ready)
include lawful

theorem Arises.names (arises : s.Arises held) : Names s.registry (held s.server) := by
  induction arises with
  | start vacant => exact vacant ▸ .nothing _
  | @step s before step ih =>
    obtain ⟨settings, spares⟩ := step.spares lawful s
    rw [registry_congr settings]
    exact spares.names ih
  | elsewhere before same ih => exact same ▸ ih

section

variable (opened : s.isOpen = true) (start : ready s.server) (names : Names s.registry (held s.server))
include opened start names

theorem channels_of_names : ∃ known server, listed.channels s = (.ok (.ok known), { s with server }) ∧
    held server = held s.server ∧ ∀ channel, channel ∈ known ↔ s.IsRegistered held channel := by
  obtain ⟨given, among⟩ := names.exists_eq_map
  obtain ⟨members, there, -⟩ := names
  obtain ⟨told, server, asked, same, data, -⟩ :=
    ask_of_ready lawful (r := .members s.registry) trivial start (Request.members_run there)
  have perm : told.Perm (given.map Utf8.encode) := among ▸ ListClient.membersAt_eq there ▸ same
  refine ⟨_, server, (connected_of_open opened _ _ _).trans (Action.reporting_of_ok (enumerate_of_names asked perm)),
    data, fun channel => ?_⟩
  rw [List.mem_mergeSort, IsRegistered, among, List.mem_map_of_injective fun _ _ same => Utf8.encode_inj.mp same]

variable (unknown : ¬ s.IsRegistered held channel)
include unknown

omit opened in
theorem rejects_ifKnown : Rejects held channel s (ifKnown channel) := by
  have asked := ifKnown_asked lawful channel s
  rcases run : ifKnown channel s with ⟨answer, later⟩
  rw [run] at asked
  cases asked with
  | known member => exact absurd member unknown
  | @unknown server _ data => exact ⟨server, run, data⟩
  | failed excused =>
    obtain ⟨members, there, -⟩ := names
    cases there.symm.trans (excused start)

theorem rejects_count : Rejects held channel s (listed.count channel) := by
  obtain ⟨server, refused, data⟩ := rejects_ifKnown lawful start names unknown
  exact ⟨server, (connected_of_open opened _ _ _).trans (Action.reporting_of_ok (Action.onSuccess_of_error refused)),
    data⟩

theorem rejects_asking {limit : Int} (wanted : 0 < limit) (operation : String)
    (next : Listed σ → Action (Listed σ) (Outcome (List Message))) :
    Rejects held channel s (asking operation channel limit next) := by
  obtain ⟨server, refused, data⟩ := rejects_ifKnown lawful start names unknown
  refine ⟨server, (asking_of_connected (connect_of_open opened) ..).trans ?_, data⟩
  rw [if_neg (by omega)]
  exact Action.reporting_of_ok (Action.onSuccess_of_error refused)

/-- What a messenger with a client answers about a channel that is not in its set: the channel is refused, except that
none are answered where no messages are asked for. -/
theorem rejects_unlisted (limit : Int) :
    Rejects held channel s (listed.count channel) ∧
      (0 < limit → Rejects held channel s (listed.receive channel limit) ∧
        Rejects held channel s (listed.peek channel limit)) ∧
      (limit ≤ 0 → listed.receive channel limit s = (.ok (.ok []), s) ∧
        listed.peek channel limit s = (.ok (.ok []), s)) := by
  obtain ⟨taking, receive⟩ := receive_eq_asking (σ := σ) channel limit
  obtain ⟨looking, peek⟩ := peek_eq_asking (σ := σ) channel limit
  refine ⟨rejects_count lawful opened start names unknown, fun wanted => ?_, fun unwanted => ?_⟩
  · have refused := rejects_asking lawful opened start names unknown wanted
    exact ⟨receive ▸ refused "receive" taking, peek ▸ refused "peek" looking⟩
  · have nothing := asking_of_none opened unwanted
    exact ⟨receive ▸ nothing "receive" channel taking, peek ▸ nothing "peek" channel looking⟩

end
end Listed

/-- A channel that is not listed is not read. In memory whatever is asked of it is refused, and changes nothing. So it
is by a messenger with a client, in every state that it comes to, where no call to its server is going to fail: there
the channels can be listed, and of one that is not among them neither is the number of messages told nor are any
given, received or looked at. Only a call that asks for no messages is not refused: it answers that there are none. -/
theorem unlisted_refused (m : Memory) :
    (∀ channel, channel ∉ m.channels → ∀ limit,
      Refuses channel m m (memory.count channel) ∧ Refuses channel m m (memory.receive channel limit) ∧
        Refuses channel m m (memory.peek channel limit)) ∧
    ∀ (σ : Type) [ListClient σ] (held : σ → ListClient.Data) (ready : σ → Prop), ListClient.Lawful held ready →
      ∀ s : Listed σ, s.Arises held → s.isOpen = true → ready s.server →
        ∃ known server, listed.channels s = (.ok (.ok known), { s with server }) ∧ held server = held s.server ∧
          ∀ channel, channel ∉ known → ∀ limit,
            Listed.Rejects held channel s (listed.count channel) ∧
            (0 < limit → Listed.Rejects held channel s (listed.receive channel limit) ∧
              Listed.Rejects held channel s (listed.peek channel limit)) ∧
            (limit ≤ 0 → listed.receive channel limit s = (.ok (.ok []), s) ∧
              listed.peek channel limit s = (.ok (.ok []), s)) := by
  refine ⟨fun channel unknown limit => memory_refuses unknown limit, ?_⟩
  intro σ _ held ready lawful s arises opened start
  have names := arises.names lawful
  obtain ⟨known, server, answered, data, among⟩ := Listed.channels_of_names lawful opened start names
  refine ⟨known, server, answered, data, fun channel unlisted limit => ?_⟩
  exact Listed.rejects_unlisted lawful opened start names (mt (among channel).mpr unlisted) limit

/-- A messenger that has a client and one channel. -/
def attended : Listed ListServer :=
  (Step.on (.call (.createChannels ["jobs"])) ({ settings := {}, isOpen := true, server := {} } : Listed ListServer)).2

theorem unlisted_refused_missing :
    Refuses "missing" ({} : Memory) {} (memory.receive "missing" 0) ∧
      listed.channels attended = (.ok (.ok ["jobs"]), attended) ∧
      Listed.Rejects ListServer.data "missing" attended (listed.receive "missing" 1) ∧
      Listed.Rejects ListServer.data "missing" attended (listed.peek "missing" 1) ∧
      listed.peek "missing" (-1) attended = (.ok (.ok []), attended) := by
  have arises : attended.Arises ListServer.data := .step (.start rfl) _
  obtain ⟨inMemory, onServer⟩ := unlisted_refused {}
  obtain ⟨known, server, answered, -, refused⟩ := onServer _ _ _ ListServer.lawful attended arises rfl trivial
  have listing : listed.channels attended = (.ok (.ok (["jobs"].mergeSort fun a b => a ≤ b)), _) := rfl
  rw [List.mergeSort_singleton] at listing
  cases answered.symm.trans listing
  obtain ⟨-, wanted, -⟩ := refused "missing" (by decide) 1
  obtain ⟨-, -, unwanted⟩ := refused "missing" (by decide) (-1)
  obtain ⟨received, looked⟩ := wanted (by decide)
  obtain ⟨-, idle⟩ := unwanted (by decide)
  obtain ⟨-, inMemory, -⟩ := inMemory "missing" (mt Memory.mem_channels.mp (by decide)) 0
  exact ⟨inMemory, listing, received, looked, idle⟩

/-- A messenger with a client answers that an unknown channel has no messages if none are asked for, and one in memory
that there is no such channel. -/
theorem unlisted_not_refused :
    ∃ s : Listed ListServer, s.Arises ListServer.data ∧ s.isOpen = true ∧ (listed.channels s).1 = .ok (.ok []) ∧
      listed.receive "missing" 0 s = (.ok (.ok []), s) ∧ listed.peek "missing" 0 s = (.ok (.ok []), s) ∧
      ¬ Listed.Rejects ListServer.data "missing" s (listed.receive "missing" 0) ∧
      Refuses "missing" ({} : Memory) {} (memory.receive "missing" 0) := by
  have none_listed : Except.ok (Except.ok ([].mergeSort fun a b : String => a ≤ b)) =
      (.ok (.ok []) : Attempt (Outcome (List String))) := by rw [List.mergeSort_nil]
  refine ⟨{ settings := {}, isOpen := true, server := {} }, .start rfl, rfl, none_listed, rfl, rfl, ?_, rfl⟩
  rintro ⟨server, refused, -⟩
  have answered : listed.receive "missing" 0 ({ settings := {}, isOpen := true, server := {} } : Listed ListServer) =
      (.ok (.ok []), _) := rfl
  cases answered.symm.trans refused

end Depot.Messenger
