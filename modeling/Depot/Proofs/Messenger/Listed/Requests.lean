import Depot.Proofs.ListClient.Names
import Depot.Proofs.Messenger.Calls
import Depot.Proofs.Messenger.Listed.Connection
import Depot.Proofs.Messenger.Listed.Encoding
import Depot.Proofs.Messenger.Listed.Registry
import Mathlib.Order.Defs.Unbundled

namespace Depot.Messenger

namespace Listed

open ListClient (Data Lawful Names Request)

/-- A request about collections under some names. Under the one of them for the set of all channels there is no
other kind of collection to be put. -/
structure Touches (name : String) (K : String → Prop) (r : Request) : Prop where
  full : r.Full
  within : ∀ key ∈ r.keys, K key
  sets : r.Sets (Key.registry name)

/-- Data after such requests. -/
structure Spares (name : String) (K : String → Prop) (data later : Data) : Prop where
  elsewhere : ∀ key, ¬ K key → later key = data key
  names : Names (Key.registry name) data → Names (Key.registry name) later

variable {name : String} {K : String → Prop} {settings : Settings.Server}

instance : Std.Refl (Spares name K) where
  refl _ := ⟨fun _ _ => rfl, fun names => names⟩

instance : IsTrans Data (Spares name K) where
  trans _ _ _ first second :=
    ⟨fun key away => (second.elsewhere key away).trans (first.elsewhere key away),
      fun names => second.names (first.names names)⟩

theorem Touches.spares {r : Request} (touches : Touches name K r) {data later : Data} (leads : r.Leads data later) :
    Spares name K data later where
  elsewhere key away := leads.elsewhere fun mentioned => away (touches.within key mentioned)
  names names := names.leads touches.sets leads

theorem touches_single {r : Request} (full : r.Full) {key : String} (only : r.keys = [key]) (inside : K key)
    (sets : r.Sets (Key.registry name)) : Touches name K r where
  full := full
  within _ mentioned := List.mem_singleton.mp (only ▸ mentioned) ▸ inside
  sets := sets

variable {σ α β : Type} [ListClient σ]

/-- A call that is made of requests about collections under some names. Of the messenger itself it looks at the settings
alone, in which there is its own name, and draws identifiers for messages. -/
inductive Made (settings : Settings.Server) (K : String → Prop) : {α : Type} → Action (Listed σ) α → Prop
  | still {α : Type} (result : Attempt α) : Made settings K (Action.ofAttempt result)
  | draws (m : Message) :
      Made settings K (Action.change fun s => let (m, ids) := stamp s.ids m; (m, { s with ids }))
  | asks {r : Request} (touches : Touches settings.namespaceName K r) (exact : ∀ key, r ≠ .members key) :
      Made settings K (onServer (ListClient.request r))
  | lists (inside : K (Key.registry settings.namespaceName)) :
      Made settings K (enumerate (Key.registry settings.namespaceName))
  | looks {α : Type} {next : Listed σ → Action (Listed σ) α} (same : ∀ s t, s.settings = t.settings → next s = next t)
      (each : ∀ s, s.settings = settings → Made settings K (next s)) : Made settings K (Action.state >>= next)
  | bind {α β : Type} {act : Action (Listed σ) α} {next : α → Action (Listed σ) β} (first : Made settings K act)
      (others : ∀ a, Made settings K (next a)) : Made settings K (act >>= next)
  | recover {α : Type} {act : Action (Listed σ) α} {handler : Fault → Action (Listed σ) α}
      (first : Made settings K act) (others : ∀ fault, Made settings K (handler fault)) :
      Made settings K (act.recover handler)

/-- A messenger after a call, with a server that is related to the one before it. -/
structure Through (R : σ → σ → Prop) (s later : Listed σ) : Prop where
  settings : later.settings = s.settings
  isOpen : later.isOpen = s.isOpen
  server : R s.server later.server

namespace Made

theorem answers (a : α) : Made settings K (pure a : Action (Listed σ) α) := .still (.ok a)

theorem onSuccess {act : Action (Listed σ) (Outcome α)} {next : α → Action (Listed σ) (Outcome β)}
    (first : Made settings K act) (others : ∀ a, Made settings K (next a)) :
    Made settings K (act.onSuccess next) := by
  refine first.bind fun answer => ?_
  cases answer with
  | ok a => exact others a
  | error e => exact answers _

theorem reporting {act : Action (Listed σ) (Outcome α)} (inner : Made settings K act) (report : Fault → Failure) :
    Made settings K (act.reporting report) :=
  inner.recover fun _ => answers _

/-- What each request does to the server, a call that is made of such requests does. -/
theorem through {R : σ → σ → Prop} [Std.Refl R] [IsTrans σ R]
    (asked : ∀ {r}, Touches settings.namespaceName K r → ∀ server, R server (ListClient.request r server).2)
    {act : Action (Listed σ) α} (made : Made settings K act) {s : Listed σ} (here : s.settings = settings) :
    Through R s (act s).2 := by
  induction made generalizing s with
  | still => exact ⟨rfl, rfl, refl s.server⟩
  | draws => exact ⟨rfl, rfl, refl s.server⟩
  | asks touches => exact ⟨rfl, rfl, asked touches s.server⟩
  | lists inside =>
    have touches : Touches settings.namespaceName K (.members (Key.registry settings.namespaceName)) :=
      touches_single trivial rfl inside trivial
    have after := asked touches s.server
    rcases run : ListClient.request (.members (Key.registry settings.namespaceName)) s.server with
      ⟨fault | told, server⟩ <;> rw [run] at after
    · rw [enumerate_of_fault (onServer_apply run)]
      exact ⟨rfl, rfl, after⟩
    · rw [enumerate_of_told (onServer_apply run)]
      exact ⟨rfl, rfl, after⟩
  | looks _ _ ih => exact ih s here here
  | @bind _ _ act next _ _ ih ih' =>
    have before := ih here
    rcases run : act s with ⟨fault | a, middle⟩ <;> rw [run] at before
    · rw [Action.bind_of_error run]
      exact before
    · have after := ih' a (before.settings.trans here)
      rw [Action.bind_of_ok run]
      exact ⟨after.settings.trans before.settings, after.isOpen.trans before.isOpen,
        IsTrans.trans _ _ _ before.server after.server⟩
  | @recover _ act handler _ _ ih ih' =>
    have before := ih here
    rcases run : act s with ⟨fault | a, middle⟩ <;> rw [run] at before
    · have after := ih' fault (before.settings.trans here)
      rw [Action.recover_of_fault run]
      exact ⟨after.settings.trans before.settings, after.isOpen.trans before.isOpen,
        IsTrans.trans _ _ _ before.server after.server⟩
    · rw [Action.recover_of_ok run]
      exact before

end Made

/-- A call that first asks for a client. -/
def Engages (settings : Settings.Server) (K : String → Prop) (act : Action (Listed σ) (Outcome α)) : Prop :=
  ∃ body, Made settings K body ∧ act = connect.onSuccess fun _ => body

theorem Engages.answering {act : Action (Listed σ) (Outcome α)} (engages : Engages settings K act)
    (reply : α → Reply) : Engages settings K (Messenger.answering reply act) := by
  obtain ⟨body, made, rfl⟩ := engages
  exact ⟨Messenger.answering reply body, made.bind fun _ => .answers _, Action.onSuccess_map ..⟩

/-- Whatever becomes of a call, it leaves alone what is not its own. -/
theorem Engages.spares {held : σ → Data} {ready : σ → Prop} (lawful : Lawful held ready)
    {act : Action (Listed σ) (Outcome α)} {s : Listed σ} (engages : Engages s.settings K act) :
    (act s).2.settings = s.settings ∧
      Spares s.settings.namespaceName K (held s.server) (held (act s).2.server) := by
  obtain ⟨body, made, rfl⟩ := engages
  have rests := rests_connect lawful s
  rcases run : connect s with ⟨fault | e | a, opened⟩ <;> rw [run] at rests
  · rw [Action.onSuccess_of_fault run, rests.data]
    exact ⟨rests.settings, refl _⟩
  · rw [Action.onSuccess_of_error run, rests.data]
    exact ⟨rests.settings, refl _⟩
  · let R (server later : σ) : Prop := Spares s.settings.namespaceName K (held server) (held later)
    have : Std.Refl R := ⟨fun server => refl (held server)⟩
    have : IsTrans σ R := ⟨fun _ _ _ first second => IsTrans.trans _ _ _ first second⟩
    have asked {r : Request} (touches : Touches s.settings.namespaceName K r) (server : σ) :
        R server (ListClient.request r server).2 := touches.spares (lawful.leads touches.full server)
    obtain ⟨settings, -, server⟩ := made.through asked rests.settings
    rw [Action.onSuccess_of_ok run, ← rests.data]
    exact ⟨settings.trans rests.settings, server⟩

theorem engages_connected {operation : String} {about : Option String}
    {act : Listed σ → Action (Listed σ) (Outcome α)} (same : ∀ s t, s.settings = t.settings → act s = act t)
    (each : ∀ s, s.settings = settings → Made settings K (act s)) :
    Engages settings K (connected operation about act) :=
  ⟨_, .looks (fun s t alike => congrArg (Action.reporting (transport operation about)) (same s t alike))
    fun s here => (each s here).reporting _, rfl⟩

theorem made_encodeAll (messages : List Message) : Made settings K (encodeAll (σ := σ) messages) := by
  induction messages with
  | nil => exact .answers []
  | cons m rest ih =>
    refine (Made.draws m).bind fun m => (Made.still _).bind fun raw => ih.bind fun _ => .answers _

theorem touches_posting {channel : String} (registry : K (Key.registry name)) (pending : K (Key.pending name channel))
    (raws : List Bytes) : Touches name K (.transaction (posting name channel raws)) where
  full := full_posting name channel raws
  within key mentioned := by
    obtain ⟨w, member, named⟩ := List.mem_flatMap.mp mentioned
    rcases List.mem_cons.mp member with rfl | posted
    · exact List.mem_singleton.mp named ▸ registry
    · split at posted
      · cases posted
      · cases List.mem_singleton.mp posted
        exact List.mem_singleton.mp named ▸ pending
  sets w member := by
    rcases List.mem_cons.mp member with rfl | posted
    · trivial
    · split at posted
      · cases posted
      · cases List.mem_singleton.mp posted
        exact Key.registry_ne_pending

section

variable (registry : K (Key.registry settings.namespaceName))
include registry

theorem made_ifKnown (channel : String) : Made settings K (ifKnown (σ := σ) channel) := by
  refine .looks (fun s t alike => by rw [registry_congr alike]) fun s here => ?_
  subst here
  have touches : Touches s.settings.namespaceName K (.isMember s.registry channel) :=
    touches_single trivial rfl registry trivial
  refine (Made.asks touches fun _ same => nomatch same).bind fun known => ?_
  cases known with
  | true => exact .answers _
  | false => exact .answers _

theorem engages_createChannels {names : List String} (some_named : names ≠ []) :
    Engages settings K (createChannels (σ := σ) names) := by
  unfold createChannels
  rw [if_neg (List.isEmpty_iff.not.mpr some_named)]
  refine engages_connected (fun s t alike => by rw [registry_congr alike]) fun s here => ?_
  subst here
  have touches : Touches s.settings.namespaceName K (.write (.sadd s.registry names)) :=
    touches_single some_named rfl registry trivial
  exact (Made.asks touches fun _ same => nomatch same).bind fun _ => .answers _

theorem engages_channels : Engages settings K (Listed.channels (σ := σ)) := by
  refine engages_connected (fun s t alike => by rw [registry_congr alike]) fun s here => ?_
  subst here
  exact .lists registry

theorem engages_deleteChannels {names : List String} (some_named : names ≠ [])
    (pending : ∀ n ∈ names, K (Key.pending settings.namespaceName n))
    (inFlight : ∀ n ∈ names, K (Key.inFlight settings.namespaceName n)) :
    Engages settings K (deleteChannels (σ := σ) names) := by
  unfold deleteChannels
  rw [if_neg (List.isEmpty_iff.not.mpr some_named)]
  refine engages_connected (fun s t alike => ?_) fun s here => ?_
  · rw [registry_congr alike, funext (pendingOf_congr alike), funext (inFlightOf_congr alike)]
  subst here
  have touches : Touches s.settings.namespaceName K (.transaction
      [.delete (names.map s.pendingOf), .delete (names.map s.inFlightOf), .srem s.registry names]) := by
    constructor
    · have some_keys (f : String → String) : names.map f ≠ [] := List.map_eq_nil_iff.not.mpr some_named
      exact List.forall_mem_cons.mpr ⟨some_keys _, List.forall_mem_cons.mpr
        ⟨some_keys _, List.forall_mem_singleton.mpr some_named⟩⟩
    · intro key mentioned
      obtain ⟨w, member, named⟩ := List.mem_flatMap.mp mentioned
      simp only [List.mem_cons, List.not_mem_nil, or_false] at member
      rcases member with rfl | rfl | rfl
      · obtain ⟨n, inside, rfl⟩ := List.mem_map.mp named
        exact pending n inside
      · obtain ⟨n, inside, rfl⟩ := List.mem_map.mp named
        exact inFlight n inside
      · exact List.mem_singleton.mp named ▸ registry
    · exact List.forall_mem_cons.mpr
        ⟨trivial, List.forall_mem_cons.mpr ⟨trivial, List.forall_mem_singleton.mpr trivial⟩⟩
  exact (Made.asks touches fun _ same => nomatch same).bind fun _ => .answers _

variable {channel : String} (pending : K (Key.pending settings.namespaceName channel))
include pending

theorem engages_count : Engages settings K (count (σ := σ) channel) := by
  refine engages_connected (fun s t alike => by rw [pendingOf_congr alike]) fun s here => ?_
  subst here
  have touches : Touches s.settings.namespaceName K (.length (s.pendingOf channel)) :=
    touches_single trivial rfl pending trivial
  exact (made_ifKnown registry channel).onSuccess fun _ =>
    (Made.asks touches fun _ same => nomatch same).bind fun _ => .answers _

theorem engages_send (messages : List Message) : Engages settings K (send (σ := σ) channel messages) := by
  refine ⟨_, .looks (fun s t alike => by rw [registry_congr alike, pendingOf_congr alike]) fun s here => ?_, rfl⟩
  subst here
  refine (made_encodeAll messages).bind fun payloads => Made.reporting ?_ _
  have touches := touches_posting registry pending payloads
  exact (Made.asks touches fun _ same => nomatch same).bind fun _ => .answers _

theorem engages_receive (inFlight : K (Key.inFlight settings.namespaceName channel)) (limit : Int) :
    Engages settings K (receive (σ := σ) channel limit) := by
  refine ⟨_, ?_, rfl⟩
  split
  · exact .answers _
  refine .looks (fun s t alike => by rw [pendingOf_congr alike, inFlightOf_congr alike]) fun s here => ?_
  subst here
  refine Made.reporting ((made_ifKnown registry channel).onSuccess fun _ => ?_) _
  have takes : Touches s.settings.namespaceName K (.pop (s.pendingOf channel) limit.toNat) :=
    touches_single (show 0 < limit.toNat by omega) rfl pending Key.registry_ne_pending
  refine (Made.asks takes fun _ same => nomatch same).bind fun raws => (Made.still _).bind fun received => ?_
  dsimp only
  split
  · rename_i filled
    have files : Touches s.settings.namespaceName K (.setFields (s.inFlightOf channel)
        (Table.ofList (received.map fun r => (r.1.id, r.2))).entries) := by
      refine touches_single (fun vacant => ?_) rfl inFlight Key.registry_ne_inFlight
      rw [Table.isEmpty, vacant] at filled
      cases filled
    exact (Made.asks files fun _ same => nomatch same).bind fun _ => .answers _
  · exact .answers _

theorem engages_peek (limit : Int) : Engages settings K (peek (σ := σ) channel limit) := by
  refine ⟨_, ?_, rfl⟩
  split
  · exact .answers _
  refine .looks (fun s t alike => by rw [pendingOf_congr alike]) fun s here => ?_
  subst here
  refine Made.reporting ((made_ifKnown registry channel).onSuccess fun _ => ?_) _
  have touches : Touches s.settings.namespaceName K (.front (s.pendingOf channel) limit.toNat) :=
    touches_single (show 0 < limit.toNat by omega) rfl pending trivial
  exact (Made.asks touches fun _ same => nomatch same).bind fun raws => (Made.still _).bind fun _ => .answers _

end

/-- A deletion does not look for its channel. -/
theorem engages_delete {channel : String} (pending : K (Key.pending settings.namespaceName channel))
    (inFlight : K (Key.inFlight settings.namespaceName channel)) {ids : List String} (some_named : ids ≠ []) :
    Engages settings K (delete (σ := σ) channel ids) := by
  unfold delete
  rw [if_neg (List.isEmpty_iff.not.mpr some_named)]
  refine engages_connected (fun s t alike => ?_) fun s here => ?_
  · rw [pendingOf_congr alike, inFlightOf_congr alike]
  subst here
  have erases : Touches s.settings.namespaceName K (.write (.hdel (s.inFlightOf channel) ids)) :=
    touches_single some_named rfl inFlight Key.registry_ne_inFlight
  have looks : Touches s.settings.namespaceName K (.items (s.pendingOf channel)) :=
    touches_single trivial rfl pending trivial
  refine (Made.asks erases fun _ same => nomatch same).bind fun _ =>
    (Made.asks looks fun _ same => nomatch same).bind fun raws => (Made.still _).bind fun doomed => ?_
  split
  · have removes : Touches s.settings.namespaceName K
        (.transaction (doomed.map fun raw => .lrem (s.pendingOf channel) raw)) := by
      refine ⟨List.forall_mem_map.mpr fun _ _ => trivial, fun key mentioned => ?_,
        List.forall_mem_map.mpr fun _ _ => Key.registry_ne_pending⟩
      by_contra foreign
      have different : key ≠ s.pendingOf channel := fun same => foreign (same ▸ pending)
      exact ListClient.Write.keys_lremAll different mentioned
    exact (Made.asks removes fun _ same => nomatch same).bind fun _ => .answers _
  · exact .answers _

/-- A name on the server is one of those that a messenger uses. -/
inductive Uses (name : String) : String → Prop
  | registry : Uses name (Key.registry name)
  | pending (channel : String) : Uses name (Key.pending name channel)
  | inFlight (channel : String) : Uses name (Key.inFlight name channel)

end Listed

namespace Call

/-- Whether there is anything to do that needs a client. -/
def needsClient : Call → Bool
  | createChannels names | deleteChannels names => !names.isEmpty
  | delete _ ids => !ids.isEmpty
  | channels | count _ | send .. | receive .. | peek .. => true

variable {σ : Type} [ListClient σ]

theorem idle {call : Call} (idle : call.needsClient = false) :
    call.on (listed : Messenger (Listed σ)) = pure (.ok .done) := by
  cases call with
  | createChannels names | deleteChannels names =>
    cases names with
    | nil => rfl
    | cons name rest => cases idle
  | delete channel ids =>
    cases ids with
    | nil => rfl
    | cons id rest => cases idle
  | _ => cases idle

theorem engages {call : Call} (needs : call.needsClient = true) (settings : Settings.Server) :
    Listed.Engages settings (Listed.Uses settings.namespaceName) (call.on (listed : Messenger (Listed σ))) := by
  have some_given {names : List String} (needs : (!names.isEmpty) = true) : names ≠ [] := by
    rintro rfl
    cases needs
  cases call with
  | createChannels names => exact (Listed.engages_createChannels .registry (some_given needs)).answering _
  | channels => exact (Listed.engages_channels .registry).answering _
  | deleteChannels names =>
    exact (Listed.engages_deleteChannels .registry (some_given needs) (fun n _ => .pending n)
      fun n _ => .inFlight n).answering _
  | count channel => exact (Listed.engages_count .registry (.pending channel)).answering _
  | send channel messages => exact (Listed.engages_send .registry (.pending channel) messages).answering _
  | receive channel limit =>
    exact (Listed.engages_receive .registry (.pending channel) (.inFlight channel) limit).answering _
  | peek channel limit => exact (Listed.engages_peek .registry (.pending channel) limit).answering _
  | delete channel ids =>
    exact (Listed.engages_delete (.pending channel) (.inFlight channel) (some_given needs)).answering _

end Call
end Depot.Messenger
