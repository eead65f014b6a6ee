import Depot.Proofs.Messenger.Calls

namespace Depot.Messenger

open Memory (isNamed unnamed)

/-- What has become of a message. -/
inductive Fate where
  | waiting
  | received
  | removed
deriving DecidableEq

/-- A message that was sent to a channel, with its identifier, and what has become of it. -/
structure Posting where
  message : Message
  fate : Fate := .waiting

namespace Posting

/-- The messages with one fate, in the order in which they were sent. -/
def withFate (fate : Fate) (postings : List Posting) : List Message :=
  (postings.filter fun p => p.fate = fate).map Posting.message

/-- The messages that were not removed, in the order in which they were sent. -/
def kept (postings : List Posting) : List Message :=
  (postings.filter fun p => p.fate ≠ .removed).map Posting.message

/-- The first messages that wait, so many of them, are received. -/
def handOut : Nat → List Posting → List Posting
  | 0, postings => postings
  | _ + 1, [] => []
  | count + 1, p :: rest =>
    if p.fate = .waiting then { p with fate := .received } :: handOut count rest
    else p :: handOut (count + 1) rest

/-- A posting after a deletion, which removes the message if it waits and is named. -/
def struck (ids : List String) (p : Posting) : Posting :=
  if p.fate = .waiting ∧ isNamed ids p.message then { p with fate := .removed } else p

def strike (ids : List String) (postings : List Posting) : List Posting := postings.map (struck ids)

/-- Messages that have just been sent. -/
def fresh (messages : List Message) : List Posting := messages.map fun m => { message := m }

/-- No message that was received stands behind one that waits. -/
def InTurn (postings : List Posting) : Prop :=
  postings.Pairwise fun earlier later => earlier.fate = .waiting → later.fate ≠ .received

variable {postings : List Posting}

theorem withFate_cons (fate : Fate) (p : Posting) (rest : List Posting) :
    withFate fate (p :: rest) = (if p.fate = fate then [p.message] else []) ++ withFate fate rest := by
  unfold withFate
  rw [List.filter_cons]
  by_cases same : p.fate = fate <;> simp [same]

theorem withFate_append (fate : Fate) (left right : List Posting) :
    withFate fate (left ++ right) = withFate fate left ++ withFate fate right := by
  simp only [withFate, List.filter_append, List.map_append]

theorem withFate_eq_nil {fate : Fate} (away : ∀ p ∈ postings, p.fate ≠ fate) :
    withFate fate postings = [] := by
  rw [withFate, List.filter_eq_nil_iff.mpr fun p member => by simpa using away p member, List.map_nil]

theorem fate_of_mem_fresh {messages : List Message} {p : Posting} (member : p ∈ fresh messages) :
    p.fate = .waiting := by
  obtain ⟨m, -, rfl⟩ := List.mem_map.mp member
  rfl

theorem message_fresh (messages : List Message) : (fresh messages).map Posting.message = messages := by
  rw [fresh, List.map_map]
  exact List.map_id' messages

theorem waiting_fresh (messages : List Message) : withFate .waiting (fresh messages) = messages := by
  induction messages with
  | nil => rfl
  | cons m rest ih =>
    rw [fresh, List.map_cons, ← fresh, withFate_cons, ih, if_pos rfl, List.singleton_append]

theorem received_fresh (messages : List Message) : withFate .received (fresh messages) = [] :=
  withFate_eq_nil fun _ member received => Fate.noConfusion ((fate_of_mem_fresh member).symm.trans received)

theorem InTurn.append_fresh (turn : InTurn postings) (messages : List Message) :
    InTurn (postings ++ fresh messages) := by
  refine List.pairwise_append.mpr ⟨turn, List.pairwise_map.mpr ?_, fun _ _ p member _ received => ?_⟩
  · exact List.pairwise_of_forall fun _ _ _ => Fate.noConfusion
  · exact Fate.noConfusion ((fate_of_mem_fresh member).symm.trans received)

theorem message_handOut (count : Nat) (postings : List Posting) :
    (handOut count postings).map Posting.message = postings.map Posting.message := by
  fun_induction handOut count postings with
  | case1 => rfl
  | case2 => rfl
  | case3 count p rest waits ih => rw [List.map_cons, List.map_cons, ih]
  | case4 count p rest settled ih => rw [List.map_cons, List.map_cons, ih]

theorem waiting_handOut (count : Nat) (postings : List Posting) :
    withFate .waiting (handOut count postings) = (withFate .waiting postings).drop count := by
  fun_induction handOut count postings with
  | case1 => rfl
  | case2 => rfl
  | case3 count p rest waits ih =>
    rw [withFate_cons, withFate_cons, if_pos waits, if_neg Fate.noConfusion, ih]
    rfl
  | case4 count p rest settled ih =>
    rw [withFate_cons, withFate_cons, if_neg settled, ih]
    rfl

/-- Behind a message that waits none has been received, so that those handed out follow all that were received
before. -/
theorem received_handOut (turn : InTurn postings) (count : Nat) :
    withFate .received (handOut count postings) =
      withFate .received postings ++ (withFate .waiting postings).take count := by
  fun_induction handOut count postings with
  | case1 => rw [List.take_zero, List.append_nil]
  | case2 => rfl
  | case3 count p rest waits ih =>
    obtain ⟨behind, others⟩ := List.pairwise_cons.mp turn
    have none_received : withFate .received rest = [] := withFate_eq_nil fun q member => behind q member waits
    rw [withFate_cons, ih others, withFate_cons, withFate_cons, none_received, waits]
    rfl
  | case4 count p rest settled ih =>
    rw [withFate_cons, ih (List.pairwise_cons.mp turn).2, withFate_cons, withFate_cons, if_neg settled,
      List.append_assoc]
    rfl

theorem InTurn.handOut (turn : InTurn postings) (count : Nat) : InTurn (handOut count postings) := by
  fun_induction Posting.handOut count postings with
  | case1 => exact turn
  | case2 => exact turn
  | case3 count p rest waits ih =>
    exact .cons (fun _ _ received => Fate.noConfusion received) (ih (List.pairwise_cons.mp turn).2)
  | case4 count p rest settled ih =>
    exact .cons (fun _ _ waits => absurd waits settled) (ih (List.pairwise_cons.mp turn).2)

theorem message_strike (ids : List String) (postings : List Posting) :
    (strike ids postings).map Posting.message = postings.map Posting.message := by
  rw [strike, List.map_map]
  refine List.map_congr_left fun p _ => ?_
  rw [Function.comp_apply, struck]
  split <;> rfl

theorem waiting_strike (ids : List String) (postings : List Posting) :
    withFate .waiting (strike ids postings) = unnamed ids (withFate .waiting postings) := by
  induction postings with
  | nil => rfl
  | cons p rest ih =>
    rw [strike, List.map_cons, ← strike, withFate_cons, ih, withFate_cons]
    by_cases waits : p.fate = .waiting
    · by_cases named : isNamed ids p.message <;> simp [struck, waits, named, unnamed]
    · simp [struck, waits]

theorem received_strike (ids : List String) (postings : List Posting) :
    withFate .received (strike ids postings) = withFate .received postings := by
  induction postings with
  | nil => rfl
  | cons p rest ih =>
    rw [strike, List.map_cons, ← strike, withFate_cons, ih, withFate_cons]
    by_cases gone : p.fate = .waiting ∧ isNamed ids p.message <;> simp [struck, gone]

theorem InTurn.strike (turn : InTurn postings) (ids : List String) : InTurn (strike ids postings) := by
  refine List.pairwise_map.mpr (turn.imp fun {earlier later} order => ?_)
  intro waits
  have before : earlier.fate = .waiting := by
    unfold struck at waits
    split at waits
    · cases waits
    · exact waits
  unfold struck
  split
  · exact Fate.noConfusion
  · exact order before

/-- What has been received, followed by what waits, is what was not removed, in the order in which it was
sent. -/
theorem InTurn.kept_eq (turn : InTurn postings) :
    withFate .received postings ++ withFate .waiting postings = kept postings := by
  induction postings with
  | nil => rfl
  | cons p rest ih =>
    obtain ⟨behind, others⟩ := List.pairwise_cons.mp turn
    have known := ih others
    have tail : kept (p :: rest) = (if p.fate ≠ .removed then [p.message] else []) ++ kept rest := by
      rw [kept, List.filter_cons, kept]
      by_cases gone : p.fate = .removed <;> simp [gone]
    rw [withFate_cons, withFate_cons, tail, ← known]
    cases stands : p.fate with
    | waiting =>
      have none_received : withFate .received rest = [] := withFate_eq_nil fun q member => behind q member stands
      rw [none_received]
      rfl
    | received => rfl
    | removed => rfl

end Posting

open Posting (withFate kept fresh handOut strike InTurn)

/-- What a call makes of the postings of a channel, and of the identifiers that are left to draw. -/
def post (channel : String) (known : List Posting × Supply) : Call → List Posting × Supply
  | .send other messages =>
    (if other = channel then known.1 ++ fresh (stampAll known.2 messages).1 else known.1,
      (stampAll known.2 messages).2)
  | .receive other limit => (if other = channel then handOut limit.toNat known.1 else known.1, known.2)
  | .delete other ids => (if other = channel then strike ids known.1 else known.1, known.2)
  | _ => known

/-- The messages that calls send to a channel, and what becomes of each. -/
def postings (channel : String) (ids : Supply) (calls : List Call) : List Posting :=
  (calls.foldl (post channel) ([], ids)).1

/-- The messages that calls send to a channel, in order, each with its identifier or the one it is given. -/
def sentTo (channel : String) : Supply → List Call → List Message
  | _, [] => []
  | ids, .send other messages :: rest =>
    (if other = channel then (stampAll ids messages).1 else []) ++ sentTo channel (stampAll ids messages).2 rest
  | ids, _ :: rest => sentTo channel ids rest

/-- The messages that a call hands over, if it receives from a channel. -/
def Call.handed (channel : String) : Call → Attempt (Outcome Reply) → List Message
  | .receive other _, .ok (.ok (.messages received)) => if other = channel then received else []
  | _, _ => []

/-- The messages that calls receive from a channel, in the order in which they are handed over. -/
def returned (channel : String) (m : Messenger σ) (calls : List Call) (s : σ) : List Message :=
  (calls.zip (run m calls s)).flatMap fun step => step.1.handed channel step.2.1

/-- The state after calls. -/
def stateAfter (m : Messenger σ) (calls : List Call) (s : σ) : σ :=
  calls.foldl (fun s call => (call.on m s).2) s

/-- What every call keeps is kept by calls one after another. -/
theorem stateAfter_of_step {P : σ → Prop} {m : Messenger σ} (step : ∀ s, P s → ∀ call : Call, P (call.on m s).2)
    {s : σ} (start : P s) (calls : List Call) : P (stateAfter m calls s) := by
  induction calls generalizing s with
  | nil => exact start
  | cons call rest ih => exact ih (step s start call)

namespace Call

/-- A call that removes a channel. -/
def Discards (channel : String) : Call → Prop
  | deleteChannels names => channel ∈ names
  | _ => False

/-- A call that can change what a channel holds. -/
def Touches (channel : String) : Call → Prop
  | deleteChannels names => channel ∈ names
  | send other _ | receive other _ | delete other _ => other = channel
  | _ => False

/-- A call that only looks. -/
def Looks : Call → Prop
  | channels | count _ | peek _ _ => True
  | _ => False

end Call

/-- What a messenger in memory holds after a call, if the identifiers that it has left are these. -/
def View.after (ids : Supply) (v : View) : Call → View
  | .createChannels names => v.enlist names
  | .deleteChannels names => v.discard names
  | .send channel messages => (v.enlist [channel]).append channel (stampAll ids messages).1
  | .receive channel limit => if channel ∈ v.names then v.take channel limit.toNat else v
  | .delete channel ids => v.remove channel ids
  | .channels | .count _ | .peek _ _ => v

variable {channel : String} {known : List Posting × Supply} {handed : List Message} {s : Memory}

namespace Memory

theorem queue_taken (channel other : String) (count : Nat) (held : Table (Option String) Message) (s : Memory) :
    (s.taken channel count held).queue other =
      if channel = other then (s.queue other).drop count else s.queue other := by
  simp only [queue, taken, Table.get?_put]
  split
  · rename_i same
    rw [same, Option.getD_some]
  · rfl

theorem mem_names_createChannels {names : List String} {other : String} :
    other ∈ (s.createChannels names).view.names ↔ other ∈ s.view.names ∨ other ∈ names := by
  rw [view_createChannels, View.mem_names_enlist]

theorem mem_names_send {messages : List Message} {other : String} :
    other ∈ (s.send channel messages).view.names ↔ other ∈ s.view.names ∨ other = channel := by
  have names : other ∈ (s.view.enlist [channel]).names ↔ other ∈ s.view.names ∨ other ∈ [channel] :=
    View.mem_names_enlist
  rw [List.mem_singleton] at names
  rw [view_send]
  exact names

/-- Messages are received from a channel that is there, and any other is refused. -/
theorem receive_on (paired : s.Paired) (other : String) (limit : Int) :
    (other ∈ s.view.names ∧ ∃ held, s.inFlight.get? other = some held ∧
      (Call.receive other limit).on memory s =
        (.ok (.ok (.messages (s.view.received other limit.toNat))), s.taken other limit.toNat held)) ∨
    (other ∉ s.view.names ∧
      (Call.receive other limit).on memory s = (.ok (.error (.channelNotFound other)), s)) := by
  by_cases there : other ∈ s.view.names
  · obtain ⟨held, found, received⟩ := receive_known paired there limit
    exact Or.inl ⟨there, held, found, answering_of_ok received⟩
  · exact Or.inr ⟨there, answering_of_ok (receive_unknown there limit)⟩

/-- What is held after a call. -/
theorem view_on (paired : s.Paired) (call : Call) : (call.on memory s).2.view = s.view.after s.ids call := by
  cases call with
  | createChannels names => exact view_createChannels names s
  | channels => rfl
  | deleteChannels names => exact view_deleteChannels names s
  | count other => rfl
  | send other messages => exact view_send other messages s
  | receive other limit =>
    rcases receive_on paired other limit with ⟨there, held, found, run⟩ | ⟨missing, run⟩
    · rw [run, view_taken there found, View.after, if_pos there]
    · rw [run, View.after, if_neg missing]
  | peek other limit => rfl
  | delete other ids => exact view_delete other ids s

theorem paired_on (paired : s.Paired) (call : Call) : (call.on memory s).2.Paired := by
  cases call with
  | createChannels names => exact paired_createChannels paired names
  | channels => exact paired
  | deleteChannels names => exact paired_deleteChannels paired names
  | count other => exact paired
  | send other messages => exact paired_send paired other messages
  | receive other limit =>
    rcases receive_on paired other limit with ⟨there, held, -, run⟩ | ⟨-, run⟩
    · rw [run]
      exact paired_taken paired there _ held
    · rw [run]
      exact paired
  | peek other limit => exact paired
  | delete other ids => exact paired_delete paired other ids

end Memory

/-- The postings of a channel account for what a messenger in memory holds for it and has handed over. -/
structure Accounts (channel : String) (known : List Posting × Supply) (handed : List Message) (s : Memory) :
    Prop where
  ids : s.ids = known.2
  turn : InTurn known.1
  handed : handed = (withFate .received known.1).map Message.receive
  waiting : s.queue channel = withFate .waiting known.1
  paired : s.Paired
  unknown : channel ∉ s.view.names → known.1 = []

namespace Accounts

theorem send (accounts : Accounts channel known handed s) (other : String) (messages : List Message) :
    Accounts channel (post channel known (.send other messages)) handed (s.send other messages) := by
  have later := Memory.paired_send accounts.paired other messages
  have drawn : (s.send other messages).ids = (stampAll known.2 messages).2 :=
    congrArg (fun ids => (stampAll ids messages).2) accounts.ids
  have queue := Memory.queue_send other channel messages s
  rw [accounts.ids, accounts.waiting] at queue
  by_cases here : other = channel
  · rw [if_pos here] at queue
    simp only [post, if_pos here]
    refine ⟨drawn, accounts.turn.append_fresh _, ?_, ?_, later, fun unknown => ?_⟩
    · rw [Posting.withFate_append, Posting.received_fresh, List.append_nil]
      exact accounts.handed
    · rw [queue, Posting.withFate_append, Posting.waiting_fresh]
    · exact absurd (Memory.mem_names_send.mpr (Or.inr here.symm)) unknown
  · rw [if_neg here] at queue
    simp only [post, if_neg here]
    exact ⟨drawn, accounts.turn, accounts.handed, queue, later, fun unknown =>
      accounts.unknown fun there => unknown (Memory.mem_names_send.mpr (Or.inl there))⟩

theorem receive (accounts : Accounts channel known handed s) (other : String) (limit : Int) :
    Accounts channel (post channel known (.receive other limit))
      (handed ++ (Call.receive other limit).handed channel ((Call.receive other limit).on memory s).1)
      ((Call.receive other limit).on memory s).2 := by
  rcases Memory.receive_on accounts.paired other limit with ⟨there, held, -, run⟩ | ⟨missing, run⟩
  · have later := Memory.paired_taken accounts.paired there limit.toNat held
    have names : (s.taken other limit.toNat held).view.names = s.view.names :=
      (Table.keys_put ..).trans (if_pos there)
    have queue := Memory.queue_taken other channel limit.toNat held s
    rw [run]
    simp only [Call.handed]
    by_cases here : other = channel
    · rw [if_pos here, accounts.waiting] at queue
      simp only [post, if_pos here]
      refine ⟨accounts.ids, accounts.turn.handOut _, ?_, ?_, later, fun unknown => ?_⟩
      · have front : s.view.received other limit.toNat =
            ((withFate .waiting known.1).take limit.toNat).map Message.receive := by
          rw [here, View.received]
          exact congrArg (fun messages => (messages.take limit.toNat).map Message.receive) accounts.waiting
        rw [Posting.received_handOut accounts.turn, List.map_append, ← accounts.handed, front]
      · rw [queue, Posting.waiting_handOut]
      · exact absurd there (here ▸ names ▸ unknown)
    · rw [if_neg here, accounts.waiting] at queue
      simp only [post, if_neg here, List.append_nil]
      exact ⟨accounts.ids, accounts.turn, accounts.handed, queue, later, fun unknown =>
        accounts.unknown (names ▸ unknown)⟩
  · rw [run]
    simp only [Call.handed, List.append_nil]
    -- A channel that is not there has no postings, so that none is handed out.
    have same : post channel known (.receive other limit) = known := by
      simp only [post]
      split
      · rename_i here
        have nothing := accounts.unknown (here ▸ missing)
        rw [nothing]
        cases limit.toNat <;> exact Prod.ext nothing.symm rfl
      · rfl
    rw [same]
    exact accounts

theorem delete (accounts : Accounts channel known handed s) (other : String) (ids : List String) :
    Accounts channel (post channel known (.delete other ids)) handed (s.delete other ids) := by
  have later := Memory.paired_delete accounts.paired other ids
  have names : (s.delete other ids).view.names = s.view.names := Table.keys_alter ..
  have queue := Memory.queue_delete other channel ids s
  rw [accounts.waiting] at queue
  by_cases here : other = channel
  · rw [if_pos here] at queue
    simp only [post, if_pos here]
    refine ⟨accounts.ids, accounts.turn.strike ids, ?_, ?_, later, fun unknown => ?_⟩
    · rw [Posting.received_strike]
      exact accounts.handed
    · rw [queue, Posting.waiting_strike]
    · rw [accounts.unknown (names ▸ unknown)]
      rfl
  · rw [if_neg here] at queue
    simp only [post, if_neg here]
    exact ⟨accounts.ids, accounts.turn, accounts.handed, queue, later, fun unknown =>
      accounts.unknown (names ▸ unknown)⟩

theorem createChannels (accounts : Accounts channel known handed s) (names : List String) :
    Accounts channel known handed (s.createChannels names) := by
  have queue : (s.createChannels names).queue channel = s.queue channel :=
    congrArg (fun v => v.queue channel) (Memory.view_createChannels names s)
  exact ⟨(Memory.ids_createChannels names s).trans accounts.ids, accounts.turn, accounts.handed,
    queue.trans accounts.waiting, Memory.paired_createChannels accounts.paired names, fun unknown =>
      accounts.unknown fun there => unknown (Memory.mem_names_createChannels.mpr (Or.inl there))⟩

theorem deleteChannels (accounts : Accounts channel known handed s) {names : List String}
    (standing : channel ∉ names) : Accounts channel known handed (s.deleteChannels names) := by
  have view := Memory.view_deleteChannels names s
  have queue : (s.deleteChannels names).queue channel = s.queue channel :=
    (congrArg (fun v => v.queue channel) view).trans (if_neg standing)
  refine ⟨accounts.ids, accounts.turn, accounts.handed, queue.trans accounts.waiting,
    Memory.paired_deleteChannels accounts.paired names, fun unknown => accounts.unknown fun there => ?_⟩
  rw [view] at unknown
  exact unknown (List.mem_filter.mpr ⟨there, by simpa using standing⟩)

/-- A call that leaves the channel in place keeps the accounts. -/
theorem step (accounts : Accounts channel known handed s) {call : Call} (standing : ¬ call.Discards channel) :
    Accounts channel (post channel known call) (handed ++ call.handed channel (call.on memory s).1)
      (call.on memory s).2 := by
  have silent {later : List Posting × Supply} {t : Memory} (after : Accounts channel later handed t) :
      Accounts channel later (handed ++ []) t := by
    rwa [List.append_nil]
  cases call with
  | createChannels names => exact silent (accounts.createChannels names)
  | channels => exact silent accounts
  | deleteChannels names => exact silent (accounts.deleteChannels standing)
  | count other => exact silent accounts
  | send other messages => exact silent (accounts.send other messages)
  | receive other limit => exact accounts.receive other limit
  | peek other limit => exact silent accounts
  | delete other ids => exact silent (accounts.delete other ids)

theorem run (accounts : Accounts channel known handed s) {calls : List Call}
    (standing : ∀ call ∈ calls, ¬ call.Discards channel) :
    Accounts channel (calls.foldl (post channel) known) (handed ++ returned channel memory calls s)
      (stateAfter memory calls s) := by
  induction calls generalizing known handed s with
  | nil =>
    rw [show returned channel memory [] s = [] from rfl, List.append_nil]
    exact accounts
  | cons call rest ih =>
    obtain ⟨first, others⟩ := List.forall_mem_cons.mp standing
    -- What the first call hands over stands before what the others do.
    have along := ih (accounts.step first) others
    rw [List.append_assoc] at along
    exact along

theorem nothing (channel : String) (ids : Supply) : Accounts channel ([], ids) [] { ids } :=
  ⟨rfl, .nil, rfl, rfl, rfl, fun _ => rfl⟩

end Accounts

/-- Whatever becomes of them, the postings are the messages that were sent. -/
theorem message_postings (channel : String) (known : List Posting × Supply) (calls : List Call) :
    (calls.foldl (post channel) known).1.map Posting.message =
      known.1.map Posting.message ++ sentTo channel known.2 calls := by
  induction calls generalizing known with
  | nil => exact (List.append_nil _).symm
  | cons call rest ih =>
    rw [List.foldl_cons, ih]
    cases call with
    | send other messages =>
      simp only [post, sentTo]
      split
      · rw [List.map_append, Posting.message_fresh, List.append_assoc]
      · rfl
    | receive other limit =>
      simp only [post, sentTo]
      split
      · rw [Posting.message_handOut]
      · rfl
    | delete other ids =>
      simp only [post, sentTo]
      split
      · rw [Posting.message_strike]
      · rfl
    | createChannels names => rfl
    | channels => rfl
    | deleteChannels names => rfl
    | count other => rfl
    | peek other limit => rfl

theorem Call.on_looks {call : Call} (looks : call.Looks) (s : Memory) : (call.on memory s).2 = s := by
  cases call with
  | channels => rfl
  | count other => rfl
  | peek other limit => rfl
  | createChannels names => exact looks.elim
  | deleteChannels names => exact looks.elim
  | send other messages => exact looks.elim
  | receive other limit => exact looks.elim
  | delete other ids => exact looks.elim

theorem Call.on_untouched {call : Call} (apart : ¬ call.Touches channel) (paired : s.Paired) :
    (call.on memory s).2.queue channel = s.queue channel ∧
      (call.on memory s).2.held channel = s.held channel := by
  have view := Memory.view_on paired call
  have untouched : (s.view.after s.ids call).queue channel = s.view.queue channel ∧
      (s.view.after s.ids call).held channel = s.view.held channel := by
    cases call with
    | channels => exact ⟨rfl, rfl⟩
    | count other => exact ⟨rfl, rfl⟩
    | peek other limit => exact ⟨rfl, rfl⟩
    | createChannels names => exact ⟨rfl, rfl⟩
    | deleteChannels names => exact ⟨if_neg apart, if_neg apart⟩
    | send other messages => exact ⟨Function.update_of_ne (Ne.symm apart) .., rfl⟩
    | receive other limit =>
      rw [View.after]
      split
      · exact ⟨Function.update_of_ne (Ne.symm apart) .., Function.update_of_ne (Ne.symm apart) ..⟩
      · exact ⟨rfl, rfl⟩
    | delete other ids =>
      exact ⟨Function.update_of_ne (Ne.symm apart) .., Function.update_of_ne (Ne.symm apart) ..⟩
  exact ⟨(congrArg (fun v => v.queue channel) view).trans untouched.1,
    (congrArg (fun v => v.held channel) view).trans untouched.2⟩

/-- What is received from a channel that stays is, in the order of sending, the messages of those postings that
are received, each with one receipt more; what waits is those that wait; and the two, one after the other, are
all messages sent but those removed. Counting counts those that wait, and neither looking nor a call on another
channel changes anything. -/
theorem received_then_waiting (channel : String) (ids : Supply) {calls : List Call}
    (standing : ∀ call ∈ calls, ¬ call.Discards channel) :
    let sent := postings channel ids calls
    let s := stateAfter memory calls { ids }
    sent.map Posting.message = sentTo channel ids calls ∧
      returned channel memory calls { ids } =
        (withFate .received sent).map (fun m => { m with received := m.received + 1 }) ∧
      s.queue channel = withFate .waiting sent ∧
      withFate .received sent ++ withFate .waiting sent = kept sent ∧
      (Call.count channel).on memory s =
        (.ok (s.view.ofKnown channel (.count (withFate .waiting sent).length)), s) ∧
      (channel ∉ s.view.names → sent = []) ∧
      (∀ call : Call, call.Looks → (call.on memory s).2 = s) ∧
      ∀ call : Call, ¬ call.Touches channel →
        (call.on memory s).2.queue channel = s.queue channel ∧
          (call.on memory s).2.held channel = s.held channel := by
  intro sent s
  have accounts := (Accounts.nothing channel ids).run standing
  have counted : (s.count channel).map Reply.count = s.view.ofKnown channel (.count (s.queue channel).length) := by
    rw [Memory.count, Memory.waiting_eq, View.ofKnown, View.ofKnown]
    split <;> rfl
  refine ⟨message_postings channel ([], ids) calls, accounts.handed, accounts.waiting, accounts.turn.kept_eq, ?_,
    accounts.unknown, fun call looks => Call.on_looks looks s,
    fun call apart => Call.on_untouched apart accounts.paired⟩
  have answer : (Call.count channel).on memory s = (.ok ((s.count channel).map Reply.count), s) := rfl
  have waiting : s.queue channel = withFate .waiting sent := accounts.waiting
  rw [answer, counted, waiting]

/-- A run on two channels, in which identifiers repeat and one deletion names a message that waits and another
that was received. -/
def errands : List Call :=
  [.send "x" [{ content := [1] }, { content := [2] }, { content := [3] }], .send "y" [{ content := [9] }],
    .receive "x" 1, .receive "x" (-2), .delete "x" ["a"], .peek "x" 5, .deleteChannels ["y"],
    .send "x" [{ content := [4], id := some "b" }], .receive "x" 1]

theorem received_then_waiting_errands :
    let ids : Supply := .cycle ["a", "b"]
    (∀ call ∈ errands, ¬ call.Discards "x") ∧
      returned "x" memory errands { ids } =
        [{ content := [1], id := some "a", received := 1 }, { content := [2], id := some "b", received := 1 }] ∧
      (stateAfter memory errands { ids }).queue "x" = [{ content := [4], id := some "b" }] ∧
      (postings "x" ids errands).map Posting.fate = [.received, .received, .removed, .waiting] := by
  intro ids
  have standing : ∀ call ∈ errands, ¬ call.Discards "x" := by simp [errands, Call.Discards]
  obtain ⟨-, returned, waiting, -⟩ := received_then_waiting "x" ids standing
  exact ⟨standing, returned.trans (by decide), waiting.trans (by decide), by decide⟩

end Depot.Messenger
