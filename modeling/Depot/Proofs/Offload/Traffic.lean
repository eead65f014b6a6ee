import Depot.Proofs.Messenger.Calls
import Depot.Proofs.Offload.Upkeep

namespace Depot.Offload

open Messenger (Memory Call stampAll deadLettersOf)

variable {τ : Type}

/-- A call of the messenger, of a sender or of a restorer. -/
inductive Ask where
  | direct (call : Call)
  | put (channel : String) (limit : Int) (cleanUp : Bool) (m : Message)
  | putAll (channel : String) (limit : Int) (cleanUp : Bool) (messages : List Message)
  | receive (channel : String) (deletes : Bool) (count : Int)
  | confirm (channel : String) (deletes : Bool) (messages : List Message)
  | deadLetter (channel : String) (deletes : Bool) (m : Message) (reason : String) (description : Option String)

namespace Ask

def serve (b : Blobs τ) (ask : Ask) (scope : Scope (Memory × τ)) : Scope (Memory × τ) :=
  match ask with
  | direct call => scope.withMessenger (call.on Messenger.memory scope.inner.1).2
  | put channel limit cleanUp m => ((senderOn Messenger.memory b channel limit cleanUp).put m scope).2
  | putAll channel limit cleanUp messages =>
    ((senderOn Messenger.memory b channel limit cleanUp).putAll messages scope).2
  | receive channel deletes count => ((restorerOn Messenger.memory b channel deletes).receive count scope).2
  | confirm channel deletes messages => ((restorerOn Messenger.memory b channel deletes).confirm messages scope).2
  | deadLetter channel deletes m reason description =>
    ((restorerOn Messenger.memory b channel deletes).deadLetter m reason description scope).2

/-- The messages that are posted to a channel, as they are handed over. -/
def posts (channel : String) : Ask → List Message
  | direct (.send other messages) => if other = channel then messages else []
  | put other _ _ m => if other = channel then [m] else []
  | putAll other _ _ messages => if other = channel then messages else []
  | deadLetter other _ m _ _ => if deadLettersOf other = channel then [m] else []
  | _ => []

end Ask

/-- The state after calls. -/
def after (b : Blobs τ) (asks : List Ask) (scope : Scope (Memory × τ)) : Scope (Memory × τ) :=
  asks.foldl (fun scope ask => ask.serve b scope) scope

/-- The messages that calls post to a channel. -/
def postedTo (channel : String) (asks : List Ask) : List Message := asks.flatMap (Ask.posts channel)

/-- A message is still what was posted, as far as its origin is concerned and, unless it names a blob, its content. -/
structure Stems (post m : Message) : Prop where
  origin : m.origin = post.origin
  content : blobKey? m = none → m.content = post.content

/-- Each message of one batch stems from a message of another. -/
def AllStem (posts messages : List Message) : Prop := ∀ m ∈ messages, ∃ post ∈ posts, Stems post m

theorem AllStem.refl (messages : List Message) : AllStem messages messages :=
  fun m member => ⟨m, member, rfl, fun _ => rfl⟩

/-- Identifiers play no part. -/
theorem AllStem.stamped {posts messages : List Message} (stem : AllStem posts messages) (ids : Supply) :
    AllStem posts (stampAll ids messages).1 := by
  intro m member
  have unaware : (stampAll ids messages).1.map (Message.withId none) = messages.map (Message.withId none) :=
    Messenger.map_stampAll (f := Message.withId none) (fun _ _ => rfl) ids messages
  obtain ⟨before, among, same⟩ := List.mem_map.mp (unaware ▸ List.mem_map_of_mem member)
  obtain ⟨post, given, origin, content⟩ := stem before among
  have properties : before.properties = m.properties := congrArg (·.properties) same
  refine ⟨post, given, (congrArg (·.origin) same).symm.trans origin, fun inline => ?_⟩
  rw [← blobKey?_congr properties] at inline
  exact (congrArg (·.content) same).symm.trans (content inline)

theorem stems_marked (m : Message) (reason : String) (description : Option String) :
    Stems m (Messenger.marked m reason description) := by
  cases description <;> exact ⟨rfl, fun _ => rfl⟩

namespace Sender

variable {σ : Type} {b : Blobs τ} {held : τ → String → Option Bytes} {faultless : τ → Prop}

theorem stems_whole (m : Message) : Stems m (whole m) where
  origin := origin_whole m
  content _ := by
    unfold whole
    split <;> rfl

theorem stems_pointer (m : Message) (key : String) : Stems m (pointer m key) where
  origin := rfl
  content inline := by
    rw [(pointer_names m key).key] at inline
    cases inline

theorem pack_stems (lawful : b.Lawful held faultless) (sender : Sender (σ × τ)) (stores : sender.blobs = b.paired)
    (m : Message) (scope : Scope (σ × τ)) :
    ∃ outcome later, sender.pack m scope = (.ok outcome, later) ∧ later.inner.1 = scope.inner.1 ∧
      ∀ p, outcome = .ok p → Stems m p.1 := by
  rcases pack_cases lawful sender stores m scope with
    ⟨-, run⟩ | ⟨-, later, run, messenger, -⟩ | ⟨-, e, later, run, messenger, -⟩
  · refine ⟨_, scope, run, rfl, fun p same => ?_⟩
    cases same
    exact stems_whole m
  · refine ⟨_, later, run, messenger, fun p same => ?_⟩
    cases same
    exact stems_pointer m scope.keys.next
  · exact ⟨_, later, run, messenger, fun p same => by cases same⟩

/-- What goes out of a batch stems from the messages of the batch. -/
theorem pack_all_stem (lawful : b.Lawful held faultless) (sender : Sender (σ × τ))
    (stores : sender.blobs = b.paired) (messages : List Message) (scope : Scope (σ × τ)) :
    ∃ (outcomes : List (Outcome (Message × Option String))) (later : Scope (σ × τ)),
      Action.runAll (messages.map sender.pack) scope = (outcomes.map .ok, later) ∧
      later.inner.1 = scope.inner.1 ∧ ∀ p, .ok p ∈ outcomes → ∃ m ∈ messages, Stems m p.1 := by
  induction messages generalizing scope with
  | nil => exact ⟨[], scope, rfl, rfl, fun p member => absurd member List.not_mem_nil⟩
  | cons m rest ih =>
    obtain ⟨outcome, middle, run, messenger, stems⟩ := pack_stems lawful sender stores m scope
    obtain ⟨outcomes, later, runs, same, others⟩ := ih middle
    refine ⟨outcome :: outcomes, later, ?_, same.trans messenger, fun p member => ?_⟩
    · rw [List.map_cons, Action.runAll_cons run, runs, List.map_cons]
    · rcases List.mem_cons.mp member with first | later
      · exact ⟨m, List.mem_cons_self, stems p first.symm⟩
      · obtain ⟨other, among, known⟩ := others p later
        exact ⟨other, List.mem_cons_of_mem _ among, known⟩

end Sender

/-- A message that waits later waited before, or it was posted meanwhile. -/
def QueuePosted (channel : String) (posts : List Message) (before later : Memory) : Prop :=
  ∀ m ∈ later.queue channel, m ∈ before.queue channel ∨ ∃ post ∈ posts, Stems post m

namespace QueuePosted

variable {channel : String} {posts more : List Message} {first second third : Memory}

theorem of_subset (fewer : second.queue channel ⊆ first.queue channel) : QueuePosted channel posts first second :=
  fun _ member => Or.inl (fewer member)

theorem trans (left : QueuePosted channel posts first second) (right : QueuePosted channel more second third) :
    QueuePosted channel (posts ++ more) first third := by
  intro m member
  rcases right m member with before | ⟨post, given, stems⟩
  · rcases left m before with earlier | ⟨post, given, stems⟩
    · exact Or.inl earlier
    · exact Or.inr ⟨post, List.mem_append_left _ given, stems⟩
  · exact Or.inr ⟨post, List.mem_append_right _ given, stems⟩

theorem send {messages : List Message} (stem : AllStem posts messages) (other : String) (s : Memory) :
    QueuePosted channel (if other = channel then posts else []) s (s.send other messages) := by
  intro m member
  rw [Memory.queue_send] at member
  split at member
  · rw [if_pos ‹other = channel›]
    exact (List.mem_append.mp member).imp_right (stem.stamped s.ids m)
  · exact Or.inl member

end QueuePosted

theorem queue_delete_subset (channel other : String) (ids : List String) (s : Memory) :
    (s.delete other ids).queue channel ⊆ s.queue channel := by
  rw [Memory.queue_delete]
  split
  · exact List.filter_subset_self ..
  · exact List.Subset.refl _

theorem queue_taken_subset (channel other : String) (count : Nat) (flight : Table (Option String) Message)
    (s : Memory) : (s.taken other count flight).queue channel ⊆ s.queue channel := by
  simp only [Memory.queue, Memory.taken, Table.get?_put]
  split
  · rename_i same
    rw [← same]
    exact List.drop_subset ..
  · exact List.Subset.refl _

theorem queuePosted_call (channel : String) (call : Call) (s : Memory) :
    QueuePosted channel ((Ask.direct call).posts channel) s (call.on Messenger.memory s).2 := by
  have queue {later : Memory} {v : Messenger.View} (view : later.view = v) :
      later.queue channel = v.queue channel := congrArg (fun v => v.queue channel) view
  cases call with
  | channels => exact .of_subset (List.Subset.refl _)
  | count other => exact .of_subset (List.Subset.refl _)
  | peek other limit => exact .of_subset (List.Subset.refl _)
  | createChannels names =>
    have same : (s.createChannels names).queue channel = s.queue channel :=
      queue (Memory.view_createChannels names s)
    exact .of_subset fun m member => same ▸ member
  | send other messages => exact .send (.refl messages) other s
  | delete other ids => exact .of_subset (queue_delete_subset channel other ids s)
  | deleteChannels names =>
    refine .of_subset fun m member => ?_
    have left := queue (Memory.view_deleteChannels names s) ▸ member
    simp only [Messenger.View.discard] at left
    split at left
    · cases left
    · exact left
  | receive other limit =>
    have run : ((Call.receive other limit).on Messenger.memory s).2 = (Memory.receive other limit s).2 :=
      Action.bind_pure_snd ..
    rw [run]
    refine .of_subset ?_
    rcases Memory.receive_cases other limit s with ⟨flight, -, received⟩ | ⟨e, refused⟩ | ⟨fault, broken⟩
    · rw [received]
      exact queue_taken_subset channel other limit.toNat flight s
    · rw [refused]
      exact List.Subset.refl _
    · rw [broken]
      exact List.Subset.refl _

variable {b : Blobs τ} {held : τ → String → Option Bytes} {faultless : τ → Prop}

/-- The blobs that messages say they came from go; or none goes, if none is to go or the store fails. -/
def Releases (held : τ → String → Option Bytes) (faultless : τ → Prop) (deletes : Bool) (messages : List Message)
    (t later : τ) : Prop :=
  (deletes ∧ held later = withoutKeys (held t) (messages.filterMap Message.origin)) ∨
    (held later = held t ∧ (deletes → ¬ faultless later))

theorem Restorer.release_settles {σ : Type} (lawful : b.Lawful held faultless) {r : Restorer (σ × τ)}
    (stores : r.blobs = b.paired) (messages : List Message) (scope : Scope (σ × τ)) :
    ∃ later, r.release messages scope = (.ok (), later) ∧ later.inner.1 = scope.inner.1 ∧
      Releases held faultless r.deleteOnConfirm messages scope.inner.2 later.inner.2 := by
  cases deletes : r.deleteOnConfirm with
  | false =>
    refine ⟨scope, ?_, rfl, Or.inr ⟨rfl, fun no => nomatch no⟩⟩
    simp only [release, deletes, Bool.not_false, Bool.true_or, if_true]
    rfl
  | true =>
    obtain ⟨later, run, messenger, -, ⟨gone, -⟩ | ⟨same, failed⟩⟩ := release_cases lawful stores deletes messages scope
    · exact ⟨later, run, messenger, Or.inl ⟨rfl, gone⟩⟩
    · exact ⟨later, run, messenger, Or.inr ⟨same, fun _ => failed⟩⟩

theorem confirm_settles (lawful : b.Lawful held faultless) (channel : String) (deletes : Bool)
    (messages : List Message) (scope : Scope (Memory × τ)) :
    ∃ later, (restorerOn Messenger.memory b channel deletes).confirm messages scope = (.ok (.ok ()), later) ∧
      later.inner.1 = scope.inner.1.delete channel (messages.filterMap Message.id) ∧
      Releases held faultless deletes messages scope.inner.2 later.inner.2 := by
  have deleted := within_confirm b channel deletes scope messages
  obtain ⟨later, run, messenger, released⟩ := Restorer.release_settles lawful
    (r := restorerOn Messenger.memory b channel deletes) rfl messages
    (scope.withMessenger (scope.inner.1.delete channel (messages.filterMap Message.id)))
  exact ⟨later, (Action.onSuccess_of_ok deleted).trans (Action.bind_of_ok run), messenger, released⟩

/-- The message is sent on and then, if it has an identifier, removed from its channel. -/
theorem deadLetter_settles (lawful : b.Lawful held faultless) (channel : String) (deletes : Bool) (m : Message)
    (reason : String) (description : Option String) (scope : Scope (Memory × τ)) :
    ∃ later, (restorerOn Messenger.memory b channel deletes).deadLetter m reason description scope =
        (.ok (.ok ()), later) ∧
      (later.inner.1 = scope.inner.1.send (deadLettersOf channel) [Messenger.marked m reason description] ∨
        ∃ ids, later.inner.1 =
          (scope.inner.1.send (deadLettersOf channel) [Messenger.marked m reason description]).delete channel ids) ∧
      Releases held faultless deletes [m] scope.inner.2 later.inner.2 := by
  let r := restorerOn Messenger.memory b channel deletes
  let sent := scope.inner.1.send (deadLettersOf channel) [Messenger.marked m reason description]
  obtain ⟨aside, moved, gone⟩ : ∃ s, Scope.within (r.receiver.deadLetter m reason description) scope =
      (.ok (.ok ()), scope.withMessenger s) ∧ (s = sent ∨ ∃ ids, s = sent.delete channel ids) := by
    cases given : m.id with
    | none =>
      exact ⟨sent, within_deadLetter_of_no_id b channel deletes scope reason description given, Or.inl rfl⟩
    | some id =>
      exact ⟨sent.delete channel [id], within_deadLetter_of_id b channel deletes scope reason description given,
        Or.inr ⟨[id], rfl⟩⟩
  obtain ⟨later, run, messenger, released⟩ :=
    Restorer.release_settles lawful (r := r) rfl [m] (scope.withMessenger aside)
  exact ⟨later, (Action.onSuccess_of_ok moved).trans (Action.bind_of_ok run), messenger ▸ gone, released⟩

theorem queuePosted_put (lawful : b.Lawful held faultless) (channel other : String) (limit : Int) (cleanUp : Bool)
    (m : Message) (scope : Scope (Memory × τ)) :
    QueuePosted channel ((Ask.put other limit cleanUp m).posts channel) scope.inner.1
      ((Ask.put other limit cleanUp m).serve b scope).inner.1 := by
  let site : Site τ := ⟨b, other, limit, cleanUp⟩
  obtain ⟨outcome, middle, run, messenger, stems⟩ := Sender.pack_stems lawful site.sender rfl m scope
  cases outcome with
  | error e =>
    have stopped : site.sender.put m scope = (.ok (.error e), middle) := Action.onSuccess_of_error run
    change QueuePosted channel _ _ (site.sender.put m scope).2.inner.1
    rw [stopped, messenger]
    exact .of_subset (List.Subset.refl _)
  | ok p =>
    have published : site.sender.put m scope =
        (.ok (.ok ()), middle.withMessenger (middle.inner.1.send other [p.1])) :=
      (Action.onSuccess_of_ok run).trans (site.publish_apply p.2.toList [p.1] middle)
    have stem : AllStem [m] [p.1] :=
      List.forall_mem_singleton.mpr ⟨m, List.mem_singleton_self m, stems p rfl⟩
    change QueuePosted channel _ _ (site.sender.put m scope).2.inner.1
    rw [published, ← messenger]
    exact .send stem other middle.inner.1

theorem queuePosted_putAll (lawful : b.Lawful held faultless) (channel other : String) (limit : Int)
    (cleanUp : Bool) (messages : List Message) (scope : Scope (Memory × τ)) :
    QueuePosted channel ((Ask.putAll other limit cleanUp messages).posts channel) scope.inner.1
      ((Ask.putAll other limit cleanUp messages).serve b scope).inner.1 := by
  let site : Site τ := ⟨b, other, limit, cleanUp⟩
  change QueuePosted channel _ _ (site.sender.putAll messages scope).2.inner.1
  unfold Sender.putAll
  by_cases nothing : messages.isEmpty
  · rw [if_pos nothing]
    exact .of_subset (List.Subset.refl _)
  rw [if_neg nothing]
  obtain ⟨outcomes, middle, runs, messenger, stems⟩ :=
    Sender.pack_all_stem lawful site.sender rfl messages scope
  have gathered : Action.gather (messages.map site.sender.pack) scope = (.ok outcomes, middle) := by
    rw [Action.gather_apply, runs, Outcome.mapM_id_eq_ok_iff.mpr rfl]
  rw [Action.bind_of_ok gathered]
  cases all : outcomes.mapM id with
  | error e =>
    obtain ⟨later, run, same, -⟩ := Sender.discard_cases lawful site.sender rfl
      (outcomes.filterMap fun p => p.toOption.bind Prod.snd) middle
    simp only [Action.bind_of_ok run]
    exact .of_subset (same.trans messenger ▸ List.Subset.refl _)
  | ok packed =>
    -- All of the batch was packed, since otherwise nothing of it is sent.
    have stem : AllStem messages (packed.map Prod.fst) := by
      intro out member
      obtain ⟨p, inside, rfl⟩ := List.mem_map.mp member
      exact stems p (Outcome.mapM_id_eq_ok_iff.mp all ▸ List.mem_map_of_mem inside)
    simp only [site.publish_apply]
    rw [← messenger]
    exact .send stem other middle.inner.1

theorem queuePosted_receive (lawful : b.Lawful held faultless) (channel other : String) (deletes : Bool)
    (count : Int) (scope : Scope (Memory × τ)) :
    QueuePosted channel [] scope.inner.1 ((Ask.receive other deletes count).serve b scope).inner.1 := by
  let r := restorerOn Messenger.memory b other deletes
  change QueuePosted channel [] _ (r.receive count scope).2.inner.1
  refine .of_subset ?_
  rcases within_receive_cases b other deletes scope count with
    ⟨flight, -, taken⟩ | ⟨e, refused⟩ | ⟨fault, broken⟩
  · rw [Restorer.receive, Action.onSuccess_of_ok taken]
    obtain ⟨result, later, restored, unchanged, -⟩ := Restorer.restoreAll_cases lawful (r := r) rfl
      (nextOf other count scope) (scope.withMessenger (scope.inner.1.taken other count.toNat flight))
    have settled : ((do return .ok (← r.restoreAll (nextOf other count scope)) :
        Action (Scope (Memory × τ)) (Outcome (List (Outcome Message))))
        (scope.withMessenger (scope.inner.1.taken other count.toNat flight))).2 = later :=
      (Action.bind_pure_snd ..).trans (congrArg Prod.snd restored)
    rw [settled, unchanged.messenger]
    exact queue_taken_subset channel other count.toNat flight scope.inner.1
  · rw [Restorer.receive, Action.onSuccess_of_error refused]
    exact List.Subset.refl _
  · rw [Restorer.receive, Action.onSuccess_of_fault broken]
    exact List.Subset.refl _

/-- Whatever is asked for, a message that waits afterwards waited before or was posted by this call. -/
theorem Ask.queuePosted (lawful : b.Lawful held faultless) (channel : String) (ask : Ask)
    (scope : Scope (Memory × τ)) :
    QueuePosted channel (ask.posts channel) scope.inner.1 (ask.serve b scope).inner.1 := by
  cases ask with
  | direct call => exact queuePosted_call channel call scope.inner.1
  | put other limit cleanUp m => exact queuePosted_put lawful channel other limit cleanUp m scope
  | putAll other limit cleanUp messages => exact queuePosted_putAll lawful channel other limit cleanUp messages scope
  | receive other deletes count => exact queuePosted_receive lawful channel other deletes count scope
  | confirm other deletes messages =>
    obtain ⟨later, run, messenger, -⟩ := confirm_settles lawful other deletes messages scope
    rw [serve, run, messenger]
    exact .of_subset (queue_delete_subset channel other _ scope.inner.1)
  | deadLetter other deletes m reason description =>
    obtain ⟨later, run, moved, -⟩ := deadLetter_settles lawful other deletes m reason description scope
    have stem : AllStem [m] [Messenger.marked m reason description] :=
      List.forall_mem_singleton.mpr ⟨m, List.mem_singleton_self m, stems_marked m reason description⟩
    have sent : QueuePosted channel (if deadLettersOf other = channel then [m] else []) scope.inner.1
        (scope.inner.1.send (deadLettersOf other) [Messenger.marked m reason description]) :=
      .send stem (deadLettersOf other) scope.inner.1
    rw [serve, run]
    rcases moved with messenger | ⟨ids, messenger⟩
    · rw [messenger]
      exact sent
    · rw [messenger]
      exact fun waiting member => sent waiting (queue_delete_subset channel other ids _ member)

theorem queuePosted_after (lawful : b.Lawful held faultless) (channel : String) (asks : List Ask)
    (scope : Scope (Memory × τ)) :
    QueuePosted channel (postedTo channel asks) scope.inner.1 (after b asks scope).inner.1 := by
  induction asks generalizing scope with
  | nil => exact .of_subset (List.Subset.refl _)
  | cons ask rest ih => exact (ask.queuePosted lawful channel scope).trans (ih (ask.serve b scope))

end Depot.Offload
