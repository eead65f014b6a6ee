import Depot.Proofs.Message.Envelope
import Depot.Proofs.Messenger.Memory
import Mathlib.Logic.Function.Basic

namespace Depot.Messenger

@[ext]
structure View where
  names : List String
  queue : String → List Message
  held : String → Table (Option String) Message

namespace View

/-- An update seen from the place that is updated. -/
theorem update_eq_ite {α : Type} (f : String → α) (channel : String) (a : α) (other : String) :
    Function.update f channel a other = if channel = other then a else f other := by
  simp only [Function.update_apply, eq_comm]

/-- What is answered about a channel, if there is one of this name. -/
def ofKnown {α : Type} (v : View) (channel : String) (a : α) : Outcome α :=
  if channel ∈ v.names then .ok a else .error (.channelNotFound channel)

theorem map_ofKnown {α β : Type} (f : α → β) (v : View) (channel : String) (a : α) :
    (v.ofKnown channel a).map f = v.ofKnown channel (f a) := by
  unfold ofKnown
  split <;> rfl

/-- Adds the names that are not there. -/
def enlist (names : List String) (v : View) : View :=
  { v with names := names.foldl (fun known name => if name ∈ known then known else known ++ [name]) v.names }

def discard (names : List String) (v : View) : View where
  names := v.names.filter fun name => !names.contains name
  queue channel := if channel ∈ names then [] else v.queue channel
  held channel := if channel ∈ names then .empty else v.held channel

theorem discard_nil (v : View) : v.discard [] = v := by
  refine View.ext (List.filter_eq_self.mpr fun name _ => ?_) rfl rfl
  rfl

def setQueue (channel : String) (messages : List Message) (v : View) : View :=
  { v with queue := Function.update v.queue channel messages }

def setHeld (channel : String) (messages : Table (Option String) Message) (v : View) : View :=
  { v with held := Function.update v.held channel messages }

def append (channel : String) (messages : List Message) (v : View) : View :=
  v.setQueue channel (v.queue channel ++ messages)

/-- The messages that a call for so many receives. -/
def received (channel : String) (count : Nat) (v : View) : List Message :=
  ((v.queue channel).take count).map Message.receive

def take (channel : String) (count : Nat) (v : View) : View :=
  (v.setQueue channel ((v.queue channel).drop count)).setHeld channel
    ((v.held channel).putAll ((v.received channel count).map fun m => (m.id, m)))

def remove (channel : String) (ids : List String) (v : View) : View :=
  (v.setHeld channel ((v.held channel).eraseAll (ids.map some))).setQueue channel
    (Memory.unnamed ids (v.queue channel))

theorem append_nil (channel : String) (v : View) : v.append channel [] = v := by
  rw [append, List.append_nil]
  exact View.ext rfl (Function.update_eq_self ..) rfl

theorem remove_nil (channel : String) (v : View) : v.remove channel [] = v := by
  have queue : Memory.unnamed [] (v.queue channel) = v.queue channel :=
    List.filter_eq_self.mpr fun m _ => by cases given : m.id <;> simp [Memory.isNamed, given]
  have held : (v.held channel).eraseAll (([] : List String).map some) = v.held channel :=
    Table.eraseAll_of_absent fun id nowhere => nomatch nowhere
  rw [remove, queue, held]
  exact View.ext rfl (Function.update_eq_self ..) (Function.update_eq_self ..)

theorem mem_names_enlist {names : List String} {channel : String} {v : View} :
    channel ∈ (v.enlist names).names ↔ channel ∈ v.names ∨ channel ∈ names := by
  have added (known : List String) (name : String) :
      channel ∈ (if name ∈ known then known else known ++ [name]) ↔ channel ∈ known ∨ channel = name := by
    split
    · rename_i there
      exact ⟨Or.inl, fun either => either.elim id fun same => same ▸ there⟩
    · rw [List.mem_append, List.mem_singleton]
  have grown (known : List String) :
      channel ∈ names.foldl (fun known name => if name ∈ known then known else known ++ [name]) known ↔
        channel ∈ known ∨ channel ∈ names := by
    induction names generalizing known with
    | nil => simp only [List.foldl_nil, List.not_mem_nil, or_false]
    | cons name rest ih => rw [List.foldl_cons, ih, added, List.mem_cons, or_assoc]
  exact grown v.names

/-- One thing is known of every message that waits, and another of every entry in flight. -/
structure Each (P : Message → Prop) (Q : Option String × Message → Prop) (v : View) : Prop where
  queued : ∀ channel, ∀ m ∈ v.queue channel, P m
  held : ∀ channel, ∀ e ∈ (v.held channel).entries, Q e

namespace Each

variable {P : Message → Prop} {Q : Option String × Message → Prop} {v : View}

theorem enlist (each : v.Each P Q) (names : List String) : (v.enlist names).Each P Q :=
  ⟨each.queued, each.held⟩

theorem discard (each : v.Each P Q) (names : List String) : (v.discard names).Each P Q := by
  refine ⟨fun channel m member => ?_, fun channel e member => ?_⟩
  · simp only [View.discard] at member
    split at member
    · cases member
    · exact each.queued channel m member
  · simp only [View.discard] at member
    split at member
    · cases member
    · exact each.held channel e member

theorem setQueue (each : v.Each P Q) (channel : String) {messages : List Message}
    (known : ∀ m ∈ messages, P m) : (v.setQueue channel messages).Each P Q := by
  refine ⟨fun other m member => ?_, each.held⟩
  simp only [View.setQueue, Function.update_apply] at member
  split at member
  · exact known m member
  · exact each.queued other m member

theorem setHeld (each : v.Each P Q) (channel : String) {messages : Table (Option String) Message}
    (known : ∀ e ∈ messages.entries, Q e) : (v.setHeld channel messages).Each P Q := by
  refine ⟨each.queued, fun other e member => ?_⟩
  simp only [View.setHeld, Function.update_apply] at member
  split at member
  · exact known e member
  · exact each.held other e member

theorem append (each : v.Each P Q) (channel : String) {messages : List Message}
    (new : ∀ m ∈ messages, P m) : (v.append channel messages).Each P Q :=
  each.setQueue channel fun m member => (List.mem_append.mp member).elim (each.queued channel m) (new m)

/-- What is known of a message in flight has to follow from what was known while it waited. -/
theorem take (each : v.Each P Q) (receipt : ∀ m, P m → Q (m.id, m.receive)) (channel : String) (count : Nat) :
    (v.take channel count).Each P Q := by
  refine (each.setQueue channel fun m member => ?_).setHeld channel fun e member => ?_
  · exact each.queued channel m (List.mem_of_mem_drop member)
  · rcases Table.mem_of_mem_entries_putAll member with before | now
    · exact each.held channel e before
    · obtain ⟨m, given, rfl⟩ := List.mem_map.mp now
      obtain ⟨waited, front, rfl⟩ := List.mem_map.mp given
      exact receipt waited (each.queued channel waited (List.mem_of_mem_take front))

theorem remove (each : v.Each P Q) (channel : String) (ids : List String) : (v.remove channel ids).Each P Q := by
  refine (each.setHeld channel fun e member => ?_).setQueue channel fun m member => ?_
  · exact each.held channel e (List.mem_filter.mp member).1
  · exact each.queued channel m (List.mem_filter.mp member).1

end Each

/-- Every message has an identifier, those that wait have room for one more receipt, and no channel is named
twice. -/
structure Sound (v : View) : Prop where
  distinct : v.names.Nodup
  queued : ∀ channel, ∀ m ∈ v.queue channel, m.id.isSome ∧ Envelope.Fits m.receive
  held : ∀ channel, ∀ e ∈ (v.held channel).entries, e.1.isSome ∧ Envelope.Fits e.2

namespace Sound

variable {v : View}

theorem each (sound : v.Sound) : v.Each (fun m => m.id.isSome ∧ Envelope.Fits m.receive)
    fun e => e.1.isSome ∧ Envelope.Fits e.2 :=
  ⟨sound.queued, sound.held⟩

theorem enlist (sound : v.Sound) (names : List String) : (v.enlist names).Sound := by
  have added (known : List String) (distinct : known.Nodup) (name : String) :
      (if name ∈ known then known else known ++ [name]).Nodup := by
    split
    · exact distinct
    · rename_i fresh
      exact List.nodup_append_comm.mp (List.nodup_cons.mpr ⟨fresh, distinct⟩)
  have grown (known : List String) (distinct : known.Nodup) :
      (names.foldl (fun known name => if name ∈ known then known else known ++ [name]) known).Nodup := by
    induction names generalizing known with
    | nil => exact distinct
    | cons name rest ih => exact ih _ (added known distinct name)
  have each := sound.each.enlist names
  exact ⟨grown v.names sound.distinct, each.queued, each.held⟩

theorem discard (sound : v.Sound) (names : List String) : (v.discard names).Sound := by
  have each := sound.each.discard names
  exact ⟨sound.distinct.filter _, each.queued, each.held⟩

theorem setQueue (sound : v.Sound) (channel : String) {messages : List Message}
    (known : ∀ m ∈ messages, m.id.isSome ∧ Envelope.Fits m.receive) : (v.setQueue channel messages).Sound := by
  have each := sound.each.setQueue channel known
  exact ⟨sound.distinct, each.queued, each.held⟩

theorem setHeld (sound : v.Sound) (channel : String) {messages : Table (Option String) Message}
    (known : ∀ e ∈ messages.entries, e.1.isSome ∧ Envelope.Fits e.2) : (v.setHeld channel messages).Sound := by
  have each := sound.each.setHeld channel known
  exact ⟨sound.distinct, each.queued, each.held⟩

theorem append (sound : v.Sound) (channel : String) {messages : List Message}
    (new : ∀ m ∈ messages, m.id.isSome ∧ Envelope.Fits m.receive) : (v.append channel messages).Sound := by
  have each := sound.each.append channel new
  exact ⟨sound.distinct, each.queued, each.held⟩

theorem id_of_held (sound : v.Sound) {channel : String} {id : Option String}
    (member : id ∈ (v.held channel).keys) : id.isSome := by
  obtain ⟨m, entry⟩ := Table.mem_keys.mp member
  exact (sound.held channel _ entry).1

theorem of_received (sound : v.Sound) {channel : String} {count : Nat} {m : Message}
    (member : m ∈ v.received channel count) : m.id.isSome ∧ Envelope.Fits m := by
  obtain ⟨waited, front, rfl⟩ := List.mem_map.mp member
  exact sound.queued channel waited (List.mem_of_mem_take front)

theorem take (sound : v.Sound) (channel : String) (count : Nat) : (v.take channel count).Sound := by
  have each := sound.each.take (fun _ known => known) channel count
  exact ⟨sound.distinct, each.queued, each.held⟩

end Sound
end View

namespace Memory

/-- The messages in flight of a channel, by their identifiers. -/
def held (channel : String) (s : Memory) : Table (Option String) Message :=
  (s.inFlight.get? channel).getD .empty

def view (s : Memory) : View where
  names := s.pending.keys
  queue channel := s.queue channel
  held channel := s.held channel

/-- A channel has a queue if and only if it has room for messages in flight. -/
def Paired (s : Memory) : Prop := s.pending.keys = s.inFlight.keys

theorem view_ensure (channel : String) (s : Memory) : (s.ensure channel).view = s.view.enlist [channel] := by
  refine View.ext (Table.keys_ensure channel [] s.pending) (funext fun other => ?_) (funext fun other => ?_)
  · simp only [view, View.enlist, queue, ensure, Table.get?_ensure]
    split
    · rename_i same
      rw [← same, Option.getD_some]
    · rfl
  · simp only [view, View.enlist, held, ensure, Table.get?_ensure]
    split
    · rename_i same
      rw [← same, Option.getD_some]
    · rfl

theorem paired_ensure {s : Memory} (paired : s.Paired) (channel : String) : (s.ensure channel).Paired := by
  rw [Paired, ensure, Table.keys_ensure, Table.keys_ensure, paired]

theorem view_createChannels (names : List String) (s : Memory) :
    (s.createChannels names).view = s.view.enlist names := by
  induction names generalizing s with
  | nil => rfl
  | cons name rest ih =>
    have others := ih (s.ensure name)
    rw [view_ensure] at others
    exact others

theorem paired_createChannels {s : Memory} (paired : s.Paired) (names : List String) :
    (s.createChannels names).Paired := by
  induction names generalizing s with
  | nil => exact paired
  | cons name rest ih => exact ih (paired_ensure paired name)

theorem ids_createChannels (names : List String) (s : Memory) : (s.createChannels names).ids = s.ids := by
  induction names generalizing s with
  | nil => rfl
  | cons name rest ih => exact ih (s.ensure name)

theorem view_deleteChannels (names : List String) (s : Memory) :
    (s.deleteChannels names).view = s.view.discard names := by
  refine View.ext (Table.keys_eraseAll names s.pending) (funext fun other => ?_) (funext fun other => ?_)
  · simp only [view, View.discard, queue, deleteChannels, Table.get?_eraseAll]
    split <;> rfl
  · simp only [view, View.discard, held, deleteChannels, Table.get?_eraseAll]
    split <;> rfl

theorem paired_deleteChannels {s : Memory} (paired : s.Paired) (names : List String) :
    (s.deleteChannels names).Paired := by
  rw [Paired, deleteChannels, Table.keys_eraseAll, Table.keys_eraseAll, paired]

theorem queue_ensure (channel other : String) (s : Memory) : (s.ensure channel).queue other = s.queue other :=
  congrFun (congrArg View.queue (view_ensure channel s)) other

theorem view_send (channel : String) (messages : List Message) (s : Memory) :
    (s.send channel messages).view =
      (s.view.enlist [channel]).append channel (stampAll s.ids messages).1 := by
  rw [← view_ensure]
  refine View.ext (Table.keys_alter ..) (funext fun other => ?_) rfl
  change (s.send channel messages).queue other = Function.update (s.ensure channel).queue channel _ other
  rw [queue_send, View.update_eq_ite, queue_ensure]
  split
  · rename_i same
    rw [same]
    exact congrArg (· ++ _) (queue_ensure ..).symm
  · rfl

theorem paired_send {s : Memory} (paired : s.Paired) (channel : String) (messages : List Message) :
    (s.send channel messages).Paired := by
  have both := paired_ensure paired channel
  rw [Paired] at both ⊢
  exact (Table.keys_alter ..).trans both

theorem view_taken {channel : String} {s : Memory} (known : channel ∈ s.pending.keys)
    {held : Table (Option String) Message} (found : s.inFlight.get? channel = some held) (count : Nat) :
    (s.taken channel count held).view = s.view.take channel count := by
  have same : s.held channel = held := by rw [Memory.held, found, Option.getD_some]
  refine View.ext ?_ (funext fun other => ?_) (funext fun other => ?_)
  · exact (Table.keys_put ..).trans (if_pos known)
  · change ((s.pending.put channel _).get? other).getD [] = Function.update s.queue channel _ other
    rw [Table.get?_put, View.update_eq_ite]
    split <;> rfl
  · change ((s.inFlight.put channel _).get? other).getD .empty = Function.update s.held channel _ other
    rw [Table.get?_put, View.update_eq_ite, ← same]
    split <;> rfl

theorem paired_taken {channel : String} {s : Memory} (paired : s.Paired) (known : channel ∈ s.pending.keys)
    (count : Nat) (held : Table (Option String) Message) : (s.taken channel count held).Paired := by
  rw [Paired, taken, Table.keys_put, Table.keys_put, if_pos known, if_pos (paired ▸ known), paired]

theorem view_delete (channel : String) (ids : List String) (s : Memory) :
    (s.delete channel ids).view = s.view.remove channel ids := by
  refine View.ext (Table.keys_alter ..) (funext fun other => ?_) (funext fun other => ?_)
  · change (s.delete channel ids).queue other = Function.update s.queue channel _ other
    rw [queue_delete, View.update_eq_ite]
    split
    · rename_i same
      rw [← same]
      rfl
    · rfl
  · change ((s.inFlight.alter channel _).get? other).getD .empty = Function.update s.held channel _ other
    rw [Table.get?_alter, View.update_eq_ite]
    split
    · cases found : s.inFlight.get? channel with
      | none =>
        have nothing : s.view.held channel = .empty := congrArg (Option.getD · Table.empty) found
        rw [nothing]
        rfl
      | some messages =>
        have all : s.view.held channel = messages := congrArg (Option.getD · Table.empty) found
        rw [all]
        rfl
    · rfl

theorem paired_delete {s : Memory} (paired : s.Paired) (channel : String) (ids : List String) :
    (s.delete channel ids).Paired := by
  rw [Paired, delete, Table.keys_alter, Table.keys_alter, paired]

end Memory
end Depot.Messenger
