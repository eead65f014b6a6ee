import Depot.Proofs.Messenger.Postings

namespace Depot.Messenger

/-- What can be done with a messenger in memory, by itself or by the publisher and the receiver of a channel. -/
inductive Use where
  | call (asked : Call)
  | inFlightCount (channel : String)
  | close
  | put (channel : String) (message : Message)
  | putAll (channel : String) (messages : List Message)
  | receive (channel : String) (limit : Int)
  | confirm (channel : String) (messages : List Message)
  | deadLetter (channel : String) (message : Message) (reason : String) (description : Option String)
  | count (channel : String)

/-- The channel that has to be there for a call to succeed. -/
def Call.reads? : Call → Option String
  | count channel | receive channel _ | peek channel _ => some channel
  | _ => none

/-- A call that adds a channel, unless it is there. -/
def Call.Makes (channel : String) : Call → Prop
  | createChannels names => channel ∈ names
  | send other _ => other = channel
  | _ => False

namespace Use

def on : Use → Action Memory (Outcome Reply)
  | call asked => asked.on memory
  | inFlightCount channel => .change fun s => (.ok (.count (s.inFlightCount channel)), s)
  | close => do
    memory.close
    return .ok .done
  | put channel message => answering (fun _ => .done) ((memory.publisher channel).put message)
  | putAll channel messages => answering (fun _ => .done) ((memory.publisher channel).putAll messages)
  | receive channel limit => answering .messages ((memory.receiver channel).receive limit)
  | confirm channel messages => answering (fun _ => .done) ((memory.receiver channel).confirm messages)
  | deadLetter channel message reason description =>
    answering (fun _ => .done) ((memory.receiver channel).deadLetter message reason description)
  | count channel => answering .count (memory.receiver channel).count

def reads? : Use → Option String
  | call asked => asked.reads?
  | receive channel _ | count channel => some channel
  | _ => none

/-- To publish is to send. A message that is set aside is sent to another channel than its own. -/
def Makes (channel : String) : Use → Prop
  | call asked => asked.Makes channel
  | put other _ | putAll other _ => other = channel
  | deadLetter other _ _ _ => deadLettersOf other = channel
  | _ => False

def Discards (channel : String) : Use → Prop
  | call asked => asked.Discards channel
  | _ => False

/-- The state that all of it leaves, one after another. -/
def stateAfter (uses : List Use) (s : Memory) : Memory := uses.foldl (fun s use => (use.on s).2) s

end Use

/-- What reads a channel, or none, is answered: with a reply if the channel is there, and else by saying that it is
not. -/
inductive Answered (s : Memory) : Option String → Attempt (Outcome Reply) → Prop
  | reply {read : Option String} (there : ∀ channel ∈ read, channel ∈ s.channels) (reply : Reply) :
      Answered s read (.ok (.ok reply))
  | unknown {channel : String} (missing : channel ∉ s.channels) :
      Answered s (some channel) (.ok (.error (.channelNotFound channel)))

variable {s : Memory} {channel : String}

namespace Memory

/-- Both tables have the same channels. Every message that waits has an identifier, and every one in flight stands
under its own and has been received. -/
structure Coherent (s : Memory) : Prop where
  paired : s.Paired
  queued : ∀ channel, ∀ m ∈ s.queue channel, m.id.isSome
  held : ∀ channel, ∀ e ∈ (s.held channel).entries, e.1.isSome ∧ e.1 = e.2.id ∧ 1 ≤ e.2.received

theorem coherent_iff : s.Coherent ↔ s.Paired ∧
    s.view.Each (fun m => m.id.isSome) fun e => e.1.isSome ∧ e.1 = e.2.id ∧ 1 ≤ e.2.received :=
  ⟨fun coherent => ⟨coherent.paired, coherent.queued, coherent.held⟩,
    fun ⟨paired, each⟩ => ⟨paired, each.queued, each.held⟩⟩

theorem coherent_nothing (ids : Supply) : Coherent { ids } :=
  ⟨rfl, fun _ _ nowhere => absurd nowhere List.not_mem_nil, fun _ _ nowhere => absurd nowhere List.not_mem_nil⟩

theorem Coherent.on (coherent : s.Coherent) (call : Call) : (call.on memory s).2.Coherent := by
  obtain ⟨paired, each⟩ := coherent_iff.mp coherent
  refine coherent_iff.mpr ⟨paired_on paired call, ?_⟩
  rw [view_on paired call]
  cases call with
  | createChannels names => exact each.enlist names
  | channels => exact each
  | deleteChannels names => exact each.discard names
  | count other => exact each
  | send other messages => exact (each.enlist [other]).append other fun m sent => id_of_mem_stampAll sent
  | receive other limit =>
    rw [View.after]
    split
    · exact each.take (fun m given => ⟨given, rfl, Nat.le_add_left 1 m.received⟩) other limit.toNat
    · exact each
  | peek other limit => exact each
  | delete other ids => exact each.remove other ids

theorem answered_done (s : Memory) (reply : Reply) : Answered s none (.ok (.ok reply)) :=
  .reply (fun _ nothing => absurd nothing (Option.not_mem_none _)) reply

theorem answered_ofKnown (s : Memory) (channel : String) (reply : Reply) :
    Answered s (some channel) (.ok (s.view.ofKnown channel reply)) := by
  unfold View.ofKnown
  split
  · rename_i there
    refine .reply (fun other same => ?_) reply
    cases same
    exact mem_channels.mpr there
  · rename_i missing
    exact .unknown (mt mem_channels.mp missing)

/-- Where both tables have the same channels, no call is interrupted. -/
theorem answered_on (paired : s.Paired) (call : Call) : Answered s call.reads? (call.on memory s).1 := by
  cases call with
  | createChannels names => exact answered_done s .done
  | channels => exact answered_done s (.channels s.channels)
  | deleteChannels names => exact answered_done s .done
  | send other messages => exact answered_done s .done
  | delete other ids => exact answered_done s .done
  | count other =>
    have answer : ((Call.count other).on memory s).1 = .ok ((s.count other).map .count) := rfl
    rw [answer, count_eq, View.map_ofKnown]
    exact answered_ofKnown s other _
  | peek other limit =>
    have answer : ((Call.peek other limit).on memory s).1 = .ok ((s.peek other limit).map .messages) := rfl
    rw [answer, peek_eq, View.map_ofKnown]
    exact answered_ofKnown s other _
  | receive other limit =>
    rcases receive_on paired other limit with ⟨there, held, -, run⟩ | ⟨missing, run⟩
    · have answer := answered_ofKnown s other (.messages (s.view.received other limit.toNat))
      rw [View.ofKnown, if_pos there] at answer
      rw [run]
      exact answer
    · rw [run]
      exact .unknown (mt mem_channels.mp missing)

theorem channels_delete (channel : String) (ids : List String) (s : Memory) :
    (s.delete channel ids).channels = s.channels := by
  have keys : (s.delete channel ids).pending.keys = s.pending.keys := Table.keys_alter ..
  rw [channels, channels, keys]

theorem mem_channels_on (paired : s.Paired) (call : Call) :
    channel ∈ (call.on memory s).2.channels ↔
      channel ∈ s.channels ∧ ¬ call.Discards channel ∨ call.Makes channel := by
  have still : channel ∈ s.view.names ↔ channel ∈ s.view.names ∧ ¬False ∨ False := by
    rw [not_false_eq_true, and_true, or_false]
  rw [mem_channels, mem_channels, view_on paired call]
  cases call with
  | createChannels names => exact View.mem_names_enlist.trans (or_congr_left (and_iff_left id).symm)
  | send other messages =>
    have enlisted : channel ∈ (s.view.enlist [other]).names ↔ channel ∈ s.view.names ∨ channel ∈ [other] :=
      View.mem_names_enlist
    rw [List.mem_singleton, eq_comm] at enlisted
    exact enlisted.trans (or_congr_left (and_iff_left id).symm)
  | deleteChannels names =>
    have left : channel ∈ (s.view.discard names).names ↔ channel ∈ s.view.names ∧ ¬ channel ∈ names := by
      rw [View.discard, List.mem_filter, Bool.not_eq_true', ← Bool.not_eq_true, List.contains_iff_mem]
    exact left.trans (or_iff_left id).symm
  | receive other limit =>
    rw [View.after]
    split
    · exact still
    · exact still
  | delete other ids => exact still
  | channels => exact still
  | count other => exact still
  | peek other limit => exact still

end Memory

namespace Use

/-- The calls on the messenger that it comes down to. To set a message aside may take two, between which others can
be made. -/
def calls : Use → List Call
  | call asked => [asked]
  | inFlightCount _ | close => []
  | put channel message => [.send channel [message]]
  | putAll channel messages => [.send channel messages]
  | receive channel limit => [.receive channel limit]
  | confirm channel messages => [.delete channel (messages.filterMap Message.id)]
  | deadLetter channel message reason description =>
    .send (deadLettersOf channel) [marked message reason description] ::
      (message.id.map fun id => Call.delete channel [id]).toList
  | count channel => [.count channel]

/-- A message is always set aside, since neither of the two calls fails. -/
theorem deadLetter_on (channel : String) (message : Message) (reason : String) (description : Option String)
    (s : Memory) : (deadLetter channel message reason description).on s =
      (.ok (.ok .done), Messenger.stateAfter memory (deadLetter channel message reason description).calls s) := by
  obtain ⟨content, id, properties, received, origin⟩ := message
  cases id with
  | none => rfl
  | some id => rfl

/-- The deletion leaves the channels as they are once the message has been sent. -/
theorem channels_deadLetter (channel : String) (message : Message) (reason : String)
    (description : Option String) (s : Memory) :
    ((deadLetter channel message reason description).on s).2.channels =
      (s.send (deadLettersOf channel) [marked message reason description]).channels := by
  obtain ⟨content, id, properties, received, origin⟩ := message
  cases id with
  | none => rfl
  | some id => exact Memory.channels_delete channel [id] _

theorem state_on (use : Use) (s : Memory) : (use.on s).2 = Messenger.stateAfter memory use.calls s := by
  cases use with
  | call asked => rfl
  | inFlightCount channel => rfl
  | close => rfl
  | put channel message => rfl
  | putAll channel messages => rfl
  | receive channel limit => rfl
  | confirm channel messages => rfl
  | deadLetter channel message reason description =>
    exact congrArg Prod.snd (deadLetter_on channel message reason description s)
  | count channel => rfl

theorem answered_on (paired : s.Paired) (use : Use) : Answered s use.reads? (use.on s).1 := by
  cases use with
  | call asked => exact Memory.answered_on paired asked
  | inFlightCount other => exact Memory.answered_done s (.count (s.inFlightCount other))
  | close => exact Memory.answered_done s .done
  | put other message => exact Memory.answered_on paired (.send other [message])
  | putAll other messages => exact Memory.answered_on paired (.send other messages)
  | receive other limit => exact Memory.answered_on paired (.receive other limit)
  | confirm other messages => exact Memory.answered_on paired (.delete other (messages.filterMap Message.id))
  | deadLetter other message reason description =>
    rw [deadLetter_on]
    exact Memory.answered_done s .done
  | count other => exact Memory.answered_on paired (.count other)

theorem mem_channels_on (paired : s.Paired) (use : Use) :
    channel ∈ (use.on s).2.channels ↔ channel ∈ s.channels ∧ ¬ use.Discards channel ∨ use.Makes channel := by
  have still : channel ∈ s.channels ↔ channel ∈ s.channels ∧ ¬False ∨ False := by
    rw [not_false_eq_true, and_true, or_false]
  cases use with
  | call asked => exact Memory.mem_channels_on paired asked
  | inFlightCount other => exact still
  | close => exact still
  | put other message => exact Memory.mem_channels_on paired (.send other [message])
  | putAll other messages => exact Memory.mem_channels_on paired (.send other messages)
  | receive other limit => exact Memory.mem_channels_on paired (.receive other limit)
  | confirm other messages => exact Memory.mem_channels_on paired (.delete other (messages.filterMap Message.id))
  | deadLetter other message reason description =>
    rw [channels_deadLetter]
    exact Memory.mem_channels_on paired (.send (deadLettersOf other) [marked message reason description])
  | count other => exact Memory.mem_channels_on paired (.count other)

theorem coherent_on (coherent : s.Coherent) (use : Use) : (use.on s).2.Coherent := by
  rw [state_on]
  exact stateAfter_of_step (fun _ coherent call => coherent.on call) coherent use.calls

theorem coherent_stateAfter (coherent : s.Coherent) (uses : List Use) : (stateAfter uses s).Coherent := by
  induction uses generalizing s with
  | nil => exact coherent
  | cons use rest ih => exact ih (coherent_on coherent use)

end Use

/-- Whatever is done with a new messenger, both of its tables have the same channels, every message that waits has an
identifier, and every one in flight stands under its own and has been received. So nothing that is done next is
interrupted: it is answered, and what reads a channel that is not there is told so. A channel is there afterwards if
it was there and is not deleted, or if it is created, or if messages are sent to it, by a call, by its publisher or
because a message is set aside. Neither reading messages nor deleting them makes one. -/
theorem tables_kept_in_step (ids : Supply) (uses : List Use) :
    let s := Use.stateAfter uses { ids }
    s.Coherent ∧ ∀ use : Use, Answered s use.reads? (use.on s).1 ∧
      ∀ channel, channel ∈ (use.on s).2.channels ↔
        channel ∈ s.channels ∧ ¬ use.Discards channel ∨ use.Makes channel := by
  intro s
  have coherent : s.Coherent := Use.coherent_stateAfter (Memory.coherent_nothing ids) uses
  exact ⟨coherent, fun use => ⟨Use.answered_on coherent.paired use, fun channel =>
    Use.mem_channels_on coherent.paired use⟩⟩

/-- A channel that only one of the tables has is found and then cannot be looked up. -/
example : (memory.receive "jobs" 1 { pending := .ofList [("jobs", [])] }).1 = .error (.raised .key "jobs") := rfl

end Depot.Messenger
