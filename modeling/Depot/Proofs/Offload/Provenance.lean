import Depot.Proofs.Offload.Spoiling
import Depot.Proofs.Offload.Traffic

namespace Depot.Offload

open Messenger (Memory)

variable {σ τ : Type}

/-- The content of a message was fetched from a blob: the message names it, and the store gave its content. -/
def FetchedFrom (m : Message) (answer : Option (Outcome Bytes)) (key : String) : Prop :=
  blobKey? m = some key ∧ ∃ content, answer = some (.ok content)

/-- What a message `d` was made of: the message `m` that was received, what the store answered for it, and one of
the messages that have been posted. -/
structure Provenance (posts : List Message) (m : Message) (answer : Option (Outcome Bytes)) (d : Message) :
    Prop where
  fetched : ∀ key, FetchedFrom m answer key → d.origin = some key ∧ answer = some (.ok d.content)
  /-- A key from which nothing was fetched was posted, together with the content. -/
  posted : ∀ key, d.origin = some key → ¬ FetchedFrom m answer key →
    answer = none ∧ ∃ post ∈ posts, post.origin = some key ∧ post.content = d.content
  /-- When the message says where its content was fetched from, and nothing else. -/
  truthful_iff : (∀ key, d.origin = some key ↔ FetchedFrom m answer key) ↔
    (blobKey? m = none → m.origin = none)

theorem provenance_of_inline {posts : List Message} {m : Message} (inline : blobKey? m = none)
    (posted : ∃ post ∈ posts, Stems post m) : Provenance posts m none m where
  fetched key fetched := by
    obtain ⟨content, same⟩ := fetched.2
    cases same
  posted key told _ := by
    obtain ⟨post, given, stems⟩ := posted
    exact ⟨rfl, post, given, stems.origin.symm.trans told, (stems.content inline).symm⟩
  truthful_iff := by
    have nothing (key : String) : ¬ FetchedFrom m none key := fun fetched => nomatch fetched.2
    constructor
    · intro truthful _
      exact Option.eq_none_iff_forall_ne_some.mpr fun key told => nothing key ((truthful key).mp told)
    · intro silent key
      rw [silent inline]
      exact iff_of_false (fun told => nomatch told) (nothing key)

theorem provenance_of_named (posts : List Message) {m : Message} {key : String} (named : blobKey? m = some key)
    (content : Bytes) : Provenance posts m (some (.ok content)) (Restorer.restored m key content) := by
  have truthful (other : String) : (Restorer.restored m key content).origin = some other ↔
      FetchedFrom m (some (.ok content)) other := by
    constructor
    · intro told
      cases told
      exact ⟨named, content, rfl⟩
    · intro fetched
      exact named.symm.trans fetched.1
  refine ⟨fun other fetched => ⟨(truthful other).mpr fetched, rfl⟩, fun other told unfetched => ?_, ?_⟩
  · exact absurd ((truthful other).mp told) unfetched
  · refine iff_of_true truthful fun inline => ?_
    rw [named] at inline
    cases inline

theorem provenance_of_settled {b : Blobs σ} {posts : List Message} {m d : Message}
    {answer : Option (Outcome Bytes)} {s later : σ} (fetches : Fetches b m s answer later)
    (settled : Settled m answer (.ok d)) (posted : ∃ post ∈ posts, Stems post m) : Provenance posts m answer d := by
  cases settled with
  | inline =>
    cases fetches with
    | inline bare => exact provenance_of_inline bare posted
  | restored named _ => exact provenance_of_named posts named _

variable {b : Blobs τ} {held : τ → String → Option Bytes} {faultless : τ → Prop}

theorem delivered_provenance (lawful : b.Lawful held faultless) {posts : List Message} {channel : String}
    {deletes : Bool} {count : Int} {now later : Scope (Memory × τ)} {outcomes : List (Outcome Message)}
    (waits : ∀ m ∈ now.inner.1.queue channel, ∃ post ∈ posts, Stems post m)
    (received : (restorerOn Messenger.memory b channel deletes).receive count now = (.ok (.ok outcomes), later)) :
    ∃ s answers, s.2 = now.inner.2 ∧ FetchesAll b.paired (nextOf channel count now) s answers later.inner ∧
      List.Forall₂ (fun pair outcome =>
          Settled pair.1 pair.2 outcome ∧ ∀ d, outcome = .ok d → Provenance posts pair.1 pair.2 d)
        ((nextOf channel count now).zip answers) outcomes := by
  obtain ⟨messages, middle, taken, restoring⟩ := Action.onSuccess_eq_ok received
  obtain ⟨rfl, store⟩ : messages = nextOf channel count now ∧ middle.inner.2 = now.inner.2 := by
    rcases within_receive_cases b channel deletes now count with ⟨flight, -, run⟩ | ⟨e, run⟩ | ⟨fault, run⟩
    · cases taken.symm.trans run
      exact ⟨rfl, rfl⟩
    · cases taken.symm.trans run
    · cases taken.symm.trans run
  obtain ⟨outcomes, after, restored, same⟩ := Action.bind_eq_ok restoring
  cases same
  obtain ⟨answers, result, after, run, fetched, -, judged⟩ := Restorer.restoreAll_judged
    (r := restorerOn Messenger.memory b channel deletes) lawful.answersReads.paired (nextOf channel count now) middle
  cases run.symm.trans restored
  rcases judged with ⟨-, _, same, settled⟩ | ⟨-, text, broken⟩
  · cases same
    refine ⟨middle.inner, answers, store, fetched, ?_⟩
    -- An answer says what was read only together with the message that it was asked for.
    have each := (List.forall₂_and_left _ _).mpr
      ⟨fun pair member => And.intro member (fetched.fetches pair member), settled⟩
    refine each.imp fun pair outcome known => ⟨known.2, fun d delivered => ?_⟩
    obtain ⟨⟨member, before, after, fetches⟩, settles⟩ := known
    obtain ⟨waiting, first, same⟩ := List.mem_map.mp (List.of_mem_zip member).1
    obtain ⟨post, given, stems⟩ := waits waiting (List.mem_of_mem_take first)
    have stems_received : Stems post pair.1 := by
      rw [← same]
      exact ⟨stems.origin, stems.content⟩
    exact provenance_of_settled fetches (delivered ▸ settles) ⟨post, given, stems_received⟩
  · cases broken

/-- In every run that begins without waiting messages, over any store of blobs, whether it fails or not: each message
received is settled by what the store answers for it. A message that is delivered gives the key of the blob from
which its content was fetched in this delivery, if there is one. If it gives a key from which nothing was fetched,
the store was not asked for anything, and the key was posted to the channel in this run, together with the content
that is delivered. So it says where its content was fetched from unless it names no blob and was posted with a key.
Settling messages removes exactly the blobs whose keys they give, or none if none is to be removed or the store
fails. -/
theorem provenance_of_run (lawful : b.Lawful held faultless) (asks : List Ask) {start : Scope (Memory × τ)}
    (empty : ∀ channel, start.inner.1.queue channel = []) (channel : String) (deletes : Bool) :
    let now := after b asks start
    let r := restorerOn Messenger.memory b channel deletes
    (∀ count outcomes later, r.receive count now = (.ok (.ok outcomes), later) →
      ∃ s answers, s.2 = now.inner.2 ∧ FetchesAll b.paired (nextOf channel count now) s answers later.inner ∧
        List.Forall₂ (fun pair outcome => Settled pair.1 pair.2 outcome ∧
            ∀ d, outcome = .ok d → Provenance (postedTo channel asks) pair.1 pair.2 d)
          ((nextOf channel count now).zip answers) outcomes) ∧
    (∀ messages, ∃ later, r.confirm messages now = (.ok (.ok ()), later) ∧
      Releases held faultless deletes messages now.inner.2 later.inner.2) ∧
    ∀ m reason description, ∃ later, r.deadLetter m reason description now = (.ok (.ok ()), later) ∧
      Releases held faultless deletes [m] now.inner.2 later.inner.2 := by
  have waits : ∀ m ∈ (after b asks start).inner.1.queue channel, ∃ post ∈ postedTo channel asks, Stems post m := by
    intro m member
    rcases queuePosted_after lawful channel asks start m member with before | known
    · rw [empty channel] at before
      cases before
    · exact known
  refine ⟨fun count outcomes later received => delivered_provenance lawful waits received, ?_, ?_⟩
  · intro messages
    obtain ⟨later, run, -, released⟩ := confirm_settles lawful channel deletes messages (after b asks start)
    exact ⟨later, run, released⟩
  · intro m reason description
    obtain ⟨later, run, -, released⟩ :=
      deadLetter_settles lawful channel deletes m reason description (after b asks start)
    exact ⟨later, run, released⟩

def shelf : Scope (Memory × Store) where
  inner := ({}, {})
  keys := .cycle ["k1", "k2"]

def shelved : Message := { content := [108, 97, 114, 103, 101, 32, 99, 111, 110, 116, 101, 110, 116] }

/-- The message with another content, as it is sent on. -/
def relayed : Message := { content := [97, 98, 99], origin := some "k1" }

def relay : List Ask :=
  [.put "jobs" 5 true shelved, .receive "jobs" true 10, .put "jobs" 5 true relayed]

/-- The message as it is delivered for the second time. -/
def redelivered : Message :=
  { relayed with id := some "00000000000000000000000000000002", received := 1 }

def shelfRestorer : Restorer (Memory × Store) := restorerOn Messenger.memory Blobs.memory "jobs" true

theorem provenance_of_run_relay :
    (∃ later, shelfRestorer.receive 10 (after Blobs.memory relay shelf) = (.ok (.ok [.ok redelivered]), later)) ∧
    (∃ post ∈ postedTo "jobs" relay, post.origin = some "k1" ∧ post.content = redelivered.content) ∧
    ∃ later, shelfRestorer.confirm [redelivered] (after Blobs.memory relay shelf) = (.ok (.ok ()), later) ∧
      later.inner.2.read? = withoutKeys (after Blobs.memory relay shelf).inner.2.read? ["k1"] := by
  have empty : ∀ channel, shelf.inner.1.queue channel = [] := fun _ => rfl
  obtain ⟨delivers, confirms, -⟩ := provenance_of_run Blobs.memory_works relay empty "jobs" true
  have received : ∃ later, shelfRestorer.receive 10 (after Blobs.memory relay shelf) =
      (.ok (.ok [.ok redelivered]), later) := ⟨_, rfl⟩
  refine ⟨received, ?_, ?_⟩
  · obtain ⟨later, run⟩ := received
    obtain ⟨s, answers, -, fetched, each⟩ := delivers 10 _ _ run
    have waits : nextOf "jobs" 10 (after Blobs.memory relay shelf) = [redelivered] := rfl
    rw [waits] at fetched each
    cases fetched with
    | cons first _ =>
      cases each with
      | cons known _ =>
        refine ((known.2 redelivered rfl).posted "k1" rfl fun fetched => ?_).2
        cases fetched.1
  · obtain ⟨later, run, ⟨-, gone⟩ | ⟨-, failed⟩⟩ := confirms [redelivered]
    · exact ⟨later, run, gone⟩
    · exact absurd trivial (failed rfl)

/-- The content of the message was not fetched from the blob that it gives, and confirming it removes the blob. -/
theorem relayed_key_removes_blob :
    (∃ d later, shelfRestorer.receive 10 (after Blobs.memory [.put "jobs" 5 true shelved] shelf) =
      (.ok (.ok [.ok d]), later) ∧ relayed = { d with content := [97, 98, 99], id := none, received := 0 }) ∧
    nextOf "jobs" 10 (after Blobs.memory relay shelf) = [redelivered] ∧
    ∃ later, shelfRestorer.receive 10 (after Blobs.memory relay shelf) = (.ok (.ok [.ok redelivered]), later) ∧
      redelivered.origin = some "k1" ∧ (∀ answer, ¬ FetchedFrom redelivered answer "k1") ∧
      later.inner.2.read? "k1" = some shelved.content ∧
      (shelfRestorer.confirm [redelivered] later).2.inner.2.read? "k1" = none := by
  refine ⟨⟨_, _, rfl, rfl⟩, rfl, _, rfl, rfl, ?_, rfl, rfl⟩
  rintro answer ⟨named, -⟩
  cases named

end Depot.Offload
