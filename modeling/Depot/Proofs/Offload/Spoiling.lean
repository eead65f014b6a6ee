import Depot.Proofs.Messenger.Memory
import Depot.Proofs.Offload.Packing
import Depot.Proofs.Outcome
import Depot.Proofs.Text.Numeral

namespace Depot

variable {σ τ : Type}

/-- A store that answers every read, with a content or with a failure. -/
def Blobs.AnswersReads (b : Blobs σ) : Prop := ∀ key s, ∃ answer later, b.read key s = (.ok answer, later)

theorem Blobs.Lawful.answersReads {b : Blobs τ} {held : τ → String → Option Bytes} {faultless : τ → Prop}
    (lawful : b.Lawful held faultless) : b.AnswersReads := by
  intro key t
  obtain ⟨answer, later, run, -⟩ := lawful.read key t
  exact ⟨answer, later, run⟩

theorem Blobs.AnswersReads.paired {b : Blobs τ} (answers : b.AnswersReads) :
    (b.paired : Blobs (σ × τ)).AnswersReads := by
  intro key pair
  obtain ⟨answer, later, run⟩ := answers key pair.2
  refine ⟨answer, (pair.1, later), ?_⟩
  change (b.read key).zoom Prod.snd (fun t pair => (pair.1, t)) pair = _
  rw [Action.zoom_apply run]

namespace Offload

/-- A message states its length in digits that make no number. -/
def Illegible (m : Message) : Prop :=
  ∃ stated, m.properties.get? lengthHeader = some stated ∧ Text.isDigits stated ∧ ¬ Text.Legible stated

/-- What a store answers for a message: nothing is asked if it names no blob. -/
inductive Fetches (b : Blobs σ) (m : Message) (s : σ) : Option (Outcome Bytes) → σ → Prop
  | inline (bare : blobKey? m = none) : Fetches b m s none s
  | asked {key : String} {answer : Outcome Bytes} {later : σ} (named : blobKey? m = some key)
      (run : b.read key s = (.ok answer, later)) : Fetches b m s (some answer) later

/-- What a store answers for the messages of a batch, one after another. -/
inductive FetchesAll (b : Blobs σ) : List Message → σ → List (Option (Outcome Bytes)) → σ → Prop
  | nil (s : σ) : FetchesAll b [] s [] s
  | cons {m : Message} {rest : List Message} {s middle later : σ} {answer : Option (Outcome Bytes)}
      {answers : List (Option (Outcome Bytes))} (first : Fetches b m s answer middle)
      (others : FetchesAll b rest middle answers later) :
      FetchesAll b (m :: rest) s (answer :: answers) later

/-- A store has been read at most once for a message. -/
theorem Fetches.later_eq {b : Blobs σ} {m : Message} {s later : σ} {answer : Option (Outcome Bytes)}
    (fetches : Fetches b m s answer later) : later = (blobKey? m).elim s fun key => (b.read key s).2 := by
  cases fetches with
  | inline bare => rw [bare, Option.elim_none]
  | asked named run => rw [named, Option.elim_some, run]

theorem FetchesAll.fetches {b : Blobs σ} {messages : List Message} {answers : List (Option (Outcome Bytes))}
    {s later : σ} (all : FetchesAll b messages s answers later) :
    ∀ pair ∈ messages.zip answers, ∃ before after, Fetches b pair.1 before pair.2 after := by
  induction all with
  | nil => exact fun pair nowhere => absurd nowhere List.not_mem_nil
  | cons first _ ih =>
    intro pair member
    rcases List.mem_cons.mp member with rfl | later
    · exact ⟨_, _, first⟩
    · exact ih pair later

/-- A message whose length is no number, once its blob has been read. -/
def Spoils (m : Message) (answer : Option (Outcome Bytes)) : Prop :=
  Illegible m ∧ ∃ content, answer = some (.ok content)

/-- A content that could not be fetched: the failure names the blob and the message, and has a cause. -/
structure Lost (m : Message) (cause : Fault) (e : Failure) : Prop where
  code : e.code = .offloadReadFailed
  named : ∃ key, blobKey? m = some key ∧ e.key = .text key
  cause : e.cause = some cause
  message : e.context.get? "message_id" = some (.ofText? m.id)

/-- The outcome of a message that does not spoil its batch. -/
inductive Settled (m : Message) : Option (Outcome Bytes) → Outcome Message → Prop
  | inline : Settled m none (.ok m)
  | unread {e failure : Failure} (lost : Lost m (.reported e) failure) :
      Settled m (some (.error e)) (.error failure)
  | mismatched {content : Bytes} {stated : String} {n : Int} {failure : Failure}
      (given : m.properties.get? lengthHeader = some stated) (digits : Text.isDigits stated)
      (read : Text.readInteger stated = .ok n) (differs : n ≠ content.length)
      (lost : Lost m (Restorer.mismatch stated content.length) failure) :
      Settled m (some (.ok content)) (.error failure)
  | restored {key : String} {content : Bytes} (named : blobKey? m = some key)
      (fits : ∀ stated n, m.properties.get? lengthHeader = some stated → Text.isDigits stated →
        Text.readInteger stated = .ok n → n = content.length) :
      Settled m (some (.ok content)) (.ok (Restorer.restored m key content))

namespace Restorer

theorem lost_lost {m : Message} {key : String} (named : blobKey? m = some key) (cause : Fault) :
    Lost m cause (lost m key cause) where
  code := rfl
  named := ⟨key, named, rfl⟩
  cause := rfl
  message := rfl

/-- A message whose length is legible, or that states none in digits, is compared with its content. -/
theorem lengthContradicted_of_legible {m : Message} (legible : ¬ Illegible m) (content : Bytes) :
    (∃ stated n, m.properties.get? lengthHeader = some stated ∧ Text.isDigits stated ∧
      Text.readInteger stated = .ok n ∧ n ≠ content.length ∧
      lengthContradicted m content = .ok (some (mismatch stated content.length))) ∨
    ((∀ stated n, m.properties.get? lengthHeader = some stated → Text.isDigits stated →
      Text.readInteger stated = .ok n → n = content.length) ∧ lengthContradicted m content = .ok none) := by
  unfold lengthContradicted contradicts
  cases given : m.properties.get? lengthHeader with
  | none => exact Or.inr ⟨fun _ _ absent => (nomatch absent), rfl⟩
  | some stated =>
    by_cases digits : Text.isDigits stated
    · have known : Text.Legible stated := by
        by_contra unread
        exact legible ⟨stated, given, digits, unread⟩
      obtain ⟨n, read⟩ := (Text.readInteger_isDigits_iff digits).mpr known
      simp only [if_pos digits, read, bind, Except.bind]
      by_cases same : n = content.length
      · refine Or.inr ⟨fun _ _ given _ again => ?_, ?_⟩
        · cases given
          rw [read] at again
          cases again
          exact same
        · rw [same, decide_eq_false (not_not.mpr rfl)]
          rfl
      · refine Or.inl ⟨stated, n, rfl, digits, read, same, ?_⟩
        rw [decide_eq_true same]
        rfl
    · refine Or.inr ⟨fun _ _ given present => ?_, ?_⟩
      · cases given
        exact absurd present digits
      · simp only [if_neg digits]
        rfl

theorem lengthContradicted_of_illegible {m : Message} (illegible : Illegible m) (content : Bytes) :
    ∃ text, lengthContradicted m content = .error (.raised .value text) := by
  obtain ⟨stated, given, digits, unread⟩ := illegible
  cases read : Text.readInteger stated with
  | ok n => exact absurd ((Text.readInteger_isDigits_iff digits).mp ⟨n, read⟩) unread
  | error e =>
    refine ⟨e.message, ?_⟩
    simp only [lengthContradicted, given, contradicts, if_pos digits, read, bind, Except.bind]

/-- Restoring a message settles it, or finds its length to be no number. -/
def Judged (m : Message) (answer : Option (Outcome Bytes)) (result : Attempt (Outcome Message)) : Prop :=
  (¬ Spoils m answer ∧ ∃ outcome, result = .ok outcome ∧ Settled m answer outcome) ∨
    (Spoils m answer ∧ ∃ text, result = .error (.raised .value text))

theorem not_spoils_none (m : Message) : ¬ Spoils m none := fun spoils => nomatch spoils.2

theorem not_spoils_error (m : Message) (e : Failure) : ¬ Spoils m (some (.error e)) :=
  fun spoils => nomatch spoils.2

theorem restore_judged {r : Restorer σ} (answers : r.blobs.AnswersReads) (m : Message) (scope : Scope σ) :
    ∃ answer result later, r.restore m scope = (result, later) ∧
      Fetches r.blobs m scope.inner answer later.inner ∧ Judged m answer result := by
  unfold restore
  cases named : m.properties.get? contentHeader with
  | none => exact ⟨none, _, _, rfl, .inline named, Or.inl ⟨not_spoils_none m, _, rfl, .inline⟩⟩
  | some key =>
    obtain ⟨answer, s, run⟩ := answers key scope.inner
    have read : Scope.within (r.blobs.read key) scope = (.ok answer, { scope with inner := s }) :=
      Action.zoom_apply run
    cases answer with
    | error e =>
      simp only []
      rw [Action.bind_of_ok read]
      exact ⟨_, _, _, rfl, .asked named run, Or.inl ⟨not_spoils_error m e, _, rfl, .unread (lost_lost named _)⟩⟩
    | ok content =>
      have checked (stated : Attempt (Option Fault)) :
          Action.ofAttempt stated { scope with inner := s } = (stated, { scope with inner := s }) := rfl
      simp only []
      rw [Action.bind_of_ok read]
      by_cases illegible : Illegible m
      · obtain ⟨text, raised⟩ := lengthContradicted_of_illegible illegible content
        simp only [raised]
        rw [Action.bind_of_error (checked _)]
        exact ⟨_, _, _, rfl, .asked named run, Or.inr ⟨⟨illegible, content, rfl⟩, text, rfl⟩⟩
      · have clean : ¬ Spoils m (some (.ok content)) := fun spoils => illegible spoils.1
        rcases lengthContradicted_of_legible illegible content with
          ⟨stated, n, given, digits, value, differs, found⟩ | ⟨fits, found⟩
        · simp only [found]
          rw [Action.bind_of_ok (checked _)]
          exact ⟨_, _, _, rfl, .asked named run,
            Or.inl ⟨clean, _, rfl, .mismatched given digits value differs (lost_lost named _)⟩⟩
        · simp only [found]
          rw [Action.bind_of_ok (checked _)]
          exact ⟨_, _, _, rfl, .asked named run, Or.inl ⟨clean, _, rfl, .restored named fits⟩⟩

/-- Restoring a batch settles every message of it, or one of them spoils it. -/
def JudgedAll (pairs : List (Message × Option (Outcome Bytes))) (result : Attempt (List (Outcome Message))) :
    Prop :=
  ((∀ pair ∈ pairs, ¬ Spoils pair.1 pair.2) ∧ ∃ outcomes, result = .ok outcomes ∧
      List.Forall₂ (fun pair outcome => Settled pair.1 pair.2 outcome) pairs outcomes) ∨
    ((∃ pair ∈ pairs, Spoils pair.1 pair.2) ∧ ∃ text, result = .error (.raised .value text))

/-- The first message that spoils a batch decides with what fault it is interrupted. -/
theorem judgedAll_of_judged {pairs : List (Message × Option (Outcome Bytes))}
    {results : List (Attempt (Outcome Message))}
    (each : List.Forall₂ (fun pair result => Judged pair.1 pair.2 result) pairs results) :
    JudgedAll pairs (results.mapM id) := by
  induction each with
  | nil => exact Or.inl ⟨fun _ nowhere => (nomatch nowhere), [], rfl, .nil⟩
  | @cons pair result pairs results first _ ih =>
    rw [List.mapM_cons]
    rcases first with ⟨clean, outcome, rfl, settled⟩ | ⟨spoils, text, rfl⟩
    · rcases ih with ⟨others, outcomes, same, each⟩ | ⟨⟨other, member, spoils⟩, text, same⟩
      · rw [same]
        exact Or.inl ⟨List.forall_mem_cons.mpr ⟨clean, others⟩, outcome :: outcomes, rfl, .cons settled each⟩
      · rw [same]
        exact Or.inr ⟨⟨other, List.mem_cons_of_mem _ member, spoils⟩, text, rfl⟩
    · exact Or.inr ⟨⟨pair, List.mem_cons_self, spoils⟩, text, rfl⟩

theorem runAll_restore {r : Restorer σ} (answers : r.blobs.AnswersReads) (messages : List Message)
    (scope : Scope σ) :
    ∃ answers results later, Action.runAll (messages.map r.restore) scope = (results, later) ∧
      FetchesAll r.blobs messages scope.inner answers later.inner ∧ answers.length = messages.length ∧
      List.Forall₂ (fun pair result => Judged pair.1 pair.2 result) (messages.zip answers) results := by
  induction messages generalizing scope with
  | nil => exact ⟨[], [], scope, rfl, .nil _, rfl, .nil⟩
  | cons m rest ih =>
    obtain ⟨answer, result, middle, run, first, judged⟩ := restore_judged answers m scope
    obtain ⟨others, results, later, runs, fetched, length, each⟩ := ih middle
    refine ⟨answer :: others, result :: results, later, ?_, .cons first fetched, ?_, .cons judged each⟩
    · rw [List.map_cons, Action.runAll_cons run, runs]
    · rw [List.length_cons, List.length_cons, length]

theorem restoreAll_judged {r : Restorer σ} (answers : r.blobs.AnswersReads) (messages : List Message)
    (scope : Scope σ) :
    ∃ answers result later, r.restoreAll messages scope = (result, later) ∧
      FetchesAll r.blobs messages scope.inner answers later.inner ∧
      (∀ outcomes, result = .ok outcomes → outcomes.length = messages.length) ∧
      JudgedAll (messages.zip answers) result := by
  obtain ⟨answers, results, later, runs, fetched, length, each⟩ := runAll_restore answers messages scope
  refine ⟨answers, results.mapM id, later, ?_, fetched, fun outcomes together => ?_, judgedAll_of_judged each⟩
  · rw [restoreAll, Action.gather_apply, runs]
  · have same := each.length_eq
    rw [List.length_zip, length, Nat.min_self, Outcome.mapM_id_eq_ok_iff.mp together, List.length_map] at same
    exact same.symm

/-- A store that answers its reads gives every message of a batch an outcome of its own, in order: the message
itself if it names no blob, the message with its content, or a failure that names the blob, if that could not be
read or has another length than stated. One thing interrupts the call instead, on one message or on a batch: a
blob has been read whose message states its length in digits that make no number. A call that receives is then
interrupted after the messages have been taken from the receiver beneath. -/
theorem restoring_settles {r : Restorer σ} (answers : r.blobs.AnswersReads) :
    (∀ m scope, ∃ answer result later, r.restore m scope = (result, later) ∧
      Fetches r.blobs m scope.inner answer later.inner ∧ Judged m answer result) ∧
    (∀ messages scope, ∃ answers result later, r.restoreAll messages scope = (result, later) ∧
      FetchesAll r.blobs messages scope.inner answers later.inner ∧
      (∀ outcomes, result = .ok outcomes → outcomes.length = messages.length) ∧
      JudgedAll (messages.zip answers) result) ∧
    (∀ limit scope messages s, r.receiver.receive limit scope.inner = (.ok (.ok messages), s) →
      ∃ answers result later, r.receive limit scope = (result.map .ok, later) ∧
        FetchesAll r.blobs messages s answers later.inner ∧
        (∀ outcomes, result = .ok outcomes → outcomes.length = messages.length) ∧
        JudgedAll (messages.zip answers) result) := by
  refine ⟨restore_judged answers, restoreAll_judged answers, fun limit scope messages s taken => ?_⟩
  have received : Scope.within (r.receiver.receive limit) scope =
      (.ok (.ok messages), { scope with inner := s }) := Action.zoom_apply taken
  obtain ⟨answers, result, later, run, fetched, length, judged⟩ :=
    restoreAll_judged answers messages { scope with inner := s }
  refine ⟨answers, result, later, ?_, fetched, length, judged⟩
  rw [receive, Action.onSuccess_of_ok received]
  cases result with
  | ok outcomes => exact Action.bind_of_ok run
  | error fault => exact Action.bind_of_error run

def sound : Message := { content := [97], id := some "m1" }

def superscript : Message :=
  { id := some "m2", properties := .ofList [(contentHeader, "b"), (lengthHeader, "²")] }

theorem illegible_superscript : Illegible superscript := by
  refine ⟨"²", by decide, by decide, fun legible => ?_⟩
  have decimal := legible.decimal '²' (by decide)
  revert decimal
  decide

def desk : Restorer (Messenger.Memory × Store) := restorerOn Messenger.memory Blobs.memory "jobs" true

/-- Both messages wait, and the blob is there. -/
def mailbox : Scope (Messenger.Memory × Store) where
  inner := ({ pending := .ofList [("jobs", [sound, superscript])], inFlight := .ofList [("jobs", .empty)] },
    { entries := .ofList [("b", [1, 2])] })
  keys := .cycle ["k"]

theorem spoils_superscript {answer : Option (Outcome Bytes)} {later : Messenger.Memory × Store}
    (fetched : Fetches desk.blobs superscript mailbox.inner answer later) : Spoils superscript answer := by
  rcases fetched with bare | ⟨named, read⟩
  · cases bare
  · cases named
    cases read
    exact ⟨illegible_superscript, [1, 2], rfl⟩

theorem restoring_settles_mailbox :
    (∃ outcomes later, desk.restoreAll [sound] mailbox = (.ok outcomes, later) ∧ outcomes.length = 1) ∧
      ∃ text later, desk.restoreAll [sound, superscript] mailbox = (.error (.raised .value text), later) := by
  have answers : desk.blobs.AnswersReads := Blobs.memory_works.answersReads.paired
  obtain ⟨-, batch, -⟩ := restoring_settles answers
  constructor
  · obtain ⟨answers, result, later, run, -, length, ⟨-, outcomes, rfl, -⟩ | ⟨⟨pair, member, spoils⟩, -⟩⟩ :=
      batch [sound] mailbox
    · exact ⟨outcomes, later, run, length outcomes rfl⟩
    · obtain ⟨stated, given, -⟩ := spoils.1
      have same : pair.1 = sound := List.mem_singleton.mp (List.of_mem_zip member).1
      rw [same] at given
      cases given
  · obtain ⟨answers, result, later, run, fetched, -, ⟨clean, -⟩ | ⟨-, text, rfl⟩⟩ :=
      batch [sound, superscript] mailbox
    · cases fetched with
      | cons first others =>
        cases others with
        | cons second _ =>
          rcases first with bare | ⟨named, -⟩
          · exact absurd (spoils_superscript second) (clean _ (List.mem_cons_of_mem _ List.mem_cons_self))
          · cases named
    · exact ⟨text, later, run⟩

/-- The message before it is lost, too: the call is interrupted, and neither message waits any more. -/
theorem receive_loses_mailbox :
    (∃ text later, desk.restore superscript mailbox = (.error (.raised .value text), later)) ∧
    (∃ text later, desk.restoreAll [sound, superscript] mailbox = (.error (.raised .value text), later)) ∧
    ∃ text later, desk.receive 10 mailbox = (.error (.raised .value text), later) ∧
      later.inner.1.queue "jobs" = [] := by
  exact ⟨⟨_, _, rfl⟩, ⟨_, _, rfl⟩, _, _, rfl, rfl⟩

end Restorer
end Offload
end Depot
