import Depot.Proofs.Action.Relations
import Depot.Proofs.Offload.Spoiling

namespace Depot

variable {σ τ : Type}

namespace Blobs

/-- A store after reads under these keys, one after another. -/
def afterReads (b : Blobs σ) (keys : List String) (s : σ) : σ := (Action.runAll (keys.map b.read) s).2

/-- Whatever two stores have both been asked before, they answer alike under every key but one. -/
def AlikeBut (key : String) (b : Blobs σ) (s : σ) (b' : Blobs τ) (t : τ) : Prop :=
  ∀ asked other, other ≠ key →
    (b.read other (b.afterReads asked s)).1 = (b'.read other (b'.afterReads asked t)).1

variable {key : String} {b : Blobs σ} {b' : Blobs τ} {s : σ} {t : τ}

theorem AlikeBut.answer (alike : AlikeBut key b s b' t) {other : String} (differs : other ≠ key) :
    (b.read other s).1 = (b'.read other t).1 :=
  alike [] other differs

/-- They still do after one more read, under whatever key. -/
theorem AlikeBut.read (alike : AlikeBut key b s b' t) (asked : String) :
    AlikeBut key b (b.read asked s).2 b' (b'.read asked t).2 :=
  fun before => alike (asked :: before)

theorem afterReads_of_still (still : ∀ key s, (b.read key s).2 = s) (keys : List String) (s : σ) :
    b.afterReads keys s = s := by
  induction keys with
  | nil => rfl
  | cons first rest ih =>
    change b.afterReads rest (b.read first s).2 = s
    rw [still, ih]

/-- Stores that reading leaves as they are have to be compared once only. -/
theorem alikeBut_of_still (still : ∀ key s, (b.read key s).2 = s) (still' : ∀ key t, (b'.read key t).2 = t)
    (same : ∀ other, other ≠ key → (b.read other s).1 = (b'.read other t).1) : AlikeBut key b s b' t := by
  intro asked other differs
  rw [afterReads_of_still still, afterReads_of_still still']
  exact same other differs

end Blobs

namespace Offload

/-- If a message states a length, it is a whole number as it is written out, and not too long to be. -/
def StatesNumber (m : Message) : Prop :=
  ∀ stated, m.properties.get? lengthHeader = some stated →
    ∃ n : Int, n.natAbs < 10 ^ Text.digitLimit ∧ stated = toString n

/-- The blob of a message cannot be read. -/
def Unread (answer : Option (Outcome Bytes)) : Prop := ∃ e, answer = some (.error e)

/-- The blob of a message has another length than the message states. A negative number states none. -/
def Misstated (m : Message) (answer : Option (Outcome Bytes)) : Prop :=
  ∃ content, ∃ n : Int, answer = some (.ok content) ∧ m.properties.get? lengthHeader = some (toString n) ∧
    0 ≤ n ∧ n ≠ content.length

/-- What becomes of a message, given what the store answers for it. -/
structure Fares (m : Message) (answer : Option (Outcome Bytes)) (outcome : Outcome Message) : Prop where
  fails : (∃ e, outcome = .error e) ↔ Unread answer ∨ Misstated m answer
  failure : ∀ e, outcome = .error e → e.code = .offloadReadFailed ∧
    (∃ key, blobKey? m = some key ∧ e.key = .text key) ∧ e.context.get? "message_id" = some (.ofText? m.id)
  inline : blobKey? m = none → outcome = .ok m
  restored : ∀ key m', blobKey? m = some key → outcome = .ok m' → ∃ content, answer = some (.ok content) ∧
    m' = { m with content, properties := m.properties.eraseAll reserved, origin := some key }

/-- What is known of a number that a message states, unless it is negative. -/
theorem StatesNumber.read {m : Message} (states : StatesNumber m) {n : Int}
    (given : m.properties.get? lengthHeader = some (toString n)) (counted : 0 ≤ n) :
    Text.isDigits (toString n) ∧ Text.readInteger (toString n) = .ok n := by
  have digits := (Text.isDigits_toString_int_iff n).mpr counted
  obtain ⟨k, short, same⟩ := states _ given
  have counted' : 0 ≤ k := (Text.isDigits_toString_int_iff k).mp (same ▸ digits)
  have equal : n = k := by
    obtain ⟨a, rfl⟩ := Int.eq_ofNat_of_zero_le counted
    obtain ⟨b, rfl⟩ := Int.eq_ofNat_of_zero_le counted'
    exact congrArg Int.ofNat (Text.toString_injective same)
  subst equal
  exact ⟨digits, Text.readInteger_toString_int counted short⟩

theorem StatesNumber.legible {m : Message} (states : StatesNumber m) : ¬ Illegible m := by
  rintro ⟨stated, given, digits, unread⟩
  obtain ⟨n, -, rfl⟩ := states stated given
  have counted := (Text.isDigits_toString_int_iff n).mp digits
  exact unread ((Text.readInteger_isDigits_iff digits).mp ⟨n, (states.read given counted).2⟩)

section

variable {m : Message} {answer : Option (Outcome Bytes)}

theorem fares_of_lost {cause : Fault} {e : Failure} (lost : Lost m cause e)
    (why : Unread answer ∨ Misstated m answer) : Fares m answer (.error e) where
  fails := iff_of_true ⟨e, rfl⟩ why
  failure e' same := by
    cases same
    exact ⟨lost.code, lost.named, lost.message⟩
  inline bare := by
    obtain ⟨key, named, -⟩ := lost.named
    rw [bare] at named
    cases named
  restored key m' _ same := by cases same

theorem fares_of_inline (bare : blobKey? m = none) : Fares m none (.ok m) where
  fails := by
    constructor
    · rintro ⟨e, failed⟩
      cases failed
    · rintro (⟨e, asked⟩ | ⟨content, n, asked, -⟩) <;> cases asked
  failure e same := by cases same
  inline _ := rfl
  restored key m' named := by
    rw [bare] at named
    cases named

theorem fares_of_restored {key : String} {content : Bytes} (named : blobKey? m = some key)
    (fits : ¬ Misstated m (some (.ok content))) :
    Fares m (some (.ok content)) (.ok (Restorer.restored m key content)) where
  fails := by
    constructor
    · rintro ⟨e, failed⟩
      cases failed
    · rintro (⟨e, refused⟩ | misstated)
      · cases refused
      · exact absurd misstated fits
  failure e same := by cases same
  inline bare := by
    rw [bare] at named
    cases named
  restored other m' named' same := by
    rw [named] at named'
    cases named'
    cases same
    exact ⟨content, rfl, rfl⟩

theorem fares_of_settled {b : Blobs σ} {outcome : Outcome Message} {s later : σ} (states : StatesNumber m)
    (fetches : Fetches b m s answer later) (settled : Settled m answer outcome) : Fares m answer outcome := by
  cases settled with
  | inline =>
    cases fetches with
    | inline bare => exact fares_of_inline bare
  | unread lost => exact fares_of_lost lost (Or.inl ⟨_, rfl⟩)
  | mismatched given digits read differs lost =>
    obtain ⟨n, -, rfl⟩ := states _ given
    have counted := (Text.isDigits_toString_int_iff n).mp digits
    rw [(states.read given counted).2] at read
    cases read
    exact fares_of_lost lost (Or.inr ⟨_, _, rfl, given, counted, differs⟩)
  | restored named fits =>
    refine fares_of_restored named ?_
    rintro ⟨content, n, same, given, counted, differs⟩
    cases same
    obtain ⟨digits, read⟩ := states.read given counted
    exact differs (fits _ n given digits read)

end

namespace Restorer

open Depot.Action (Agree)

variable {r : Restorer σ} {r' : Restorer τ} {key : String}

/-- The stores of two restorers answer alike, one key apart. -/
def Alike (key : String) (r : Restorer σ) (r' : Restorer τ) (s : Scope σ) (t : Scope τ) : Prop :=
  r.blobs.AlikeBut key s.inner r'.blobs t.inner

theorem agree_write (level : Log.Level) (text : String) (fields : List (String × Value)) :
    Agree (Alike key r r') (Scope.write level text fields) (Scope.write level text fields) :=
  fun _ _ alike => ⟨rfl, alike⟩

theorem agree_read {asked : String} (differs : asked ≠ key) :
    Agree (Alike key r r') (Scope.within (r.blobs.read asked)) (Scope.within (r'.blobs.read asked)) :=
  fun _ _ alike => ⟨Blobs.AlikeBut.answer alike differs, Blobs.AlikeBut.read alike asked⟩

/-- A message that does not name the blob of this key has the same outcome over both stores. -/
theorem agree_restore {m : Message} (other : blobKey? m ≠ some key) :
    Agree (Alike key r r') (r.restore m) (r'.restore m) := by
  unfold restore
  cases named : m.properties.get? contentHeader with
  | none => exact .still (.ok (.ok m)) (fun _ => rfl) fun _ => rfl
  | some asked =>
    have differs : asked ≠ key := fun same => other (same ▸ named)
    refine (agree_read differs).bind fun answer => ?_
    cases answer with
    | error e =>
      refine (agree_write _ _ _).bind fun _ => ?_
      exact .still (.ok (.error (lost m asked (.reported e)))) (fun _ => rfl) fun _ => rfl
    | ok content =>
      have checked : Agree (Alike key r r') (Action.ofAttempt (lengthContradicted m content))
          (Action.ofAttempt (lengthContradicted m content)) := .still _ (fun _ => rfl) fun _ => rfl
      refine checked.bind fun contradiction => ?_
      cases contradiction with
      | some fault =>
        refine (agree_write _ _ _).bind fun _ => ?_
        exact .still (.ok (.error (lost m asked fault))) (fun _ => rfl) fun _ => rfl
      | none =>
        refine (agree_write _ _ _).bind fun _ => ?_
        exact .still (.ok (.ok (restored m asked content))) (fun _ => rfl) fun _ => rfl

/-- After any message both stores have been asked the same, and they still answer alike. -/
theorem alike_restore (answers : r.blobs.AnswersReads) (answers' : r'.blobs.AnswersReads) (m : Message)
    {s : Scope σ} {t : Scope τ} (alike : Alike key r r' s t) : Alike key r r' (r.restore m s).2 (r'.restore m t).2 := by
  obtain ⟨answer, result, later, run, fetches, -⟩ := restore_judged answers m s
  obtain ⟨answer', result', later', run', fetches', -⟩ := restore_judged answers' m t
  rw [run, run', Alike, fetches.later_eq, fetches'.later_eq]
  cases blobKey? m with
  | none => exact alike
  | some asked => exact Blobs.AlikeBut.read alike asked

/-- Position by position, of messages that do not name the blob of the one key. -/
theorem runAll_alike (answers : r.blobs.AnswersReads) (answers' : r'.blobs.AnswersReads) (messages : List Message)
    {s : Scope σ} {t : Scope τ} (alike : Alike key r r' s t) :
    ∀ (i : Nat) (m : Message), messages[i]? = some m → blobKey? m ≠ some key →
      (Action.runAll (messages.map r.restore) s).1[i]? = (Action.runAll (messages.map r'.restore) t).1[i]? := by
  induction messages generalizing s t with
  | nil =>
    intro i m placed
    cases placed
  | cons first rest ih =>
    intro i m placed other
    have after := alike_restore answers answers' first alike
    cases i with
    | zero =>
      cases placed
      exact congrArg some (agree_restore other s t alike).1
    | succ i => exact ih after i m placed other

/-- A batch has been restored: the store has answered for its messages one after another, and each of them has an
outcome that its answer decides. -/
structure Delivers (r : Restorer σ) (messages : List Message) (scope : Scope σ) (outcomes : List (Outcome Message)) :
    Prop where
  length : outcomes.length = messages.length
  run : ∃ answers later, r.restoreAll messages scope = (.ok outcomes, later) ∧
    FetchesAll r.blobs messages scope.inner answers later.inner ∧
    List.Forall₂ (fun pair outcome => Fares pair.1 pair.2 outcome) (messages.zip answers) outcomes

theorem delivers {messages : List Message} (answers : r.blobs.AnswersReads)
    (states : ∀ m ∈ messages, StatesNumber m) (scope : Scope σ) :
    ∃ outcomes, r.Delivers messages scope outcomes ∧
      (Action.runAll (messages.map r.restore) scope).1 = outcomes.map .ok := by
  obtain ⟨fetched, result, later, run, fetches, length, judged⟩ := restoreAll_judged answers messages scope
  rcases judged with ⟨-, outcomes, rfl, settled⟩ | ⟨⟨pair, member, spoils⟩, -⟩
  · have together := congrArg Prod.fst run
    refine ⟨outcomes, ⟨length outcomes rfl, fetched, later, run, fetches, ?_⟩, Outcome.mapM_id_eq_ok_iff.mp together⟩
    have each := (List.forall₂_and_left _ _).mpr
      ⟨fun pair member => And.intro member (fetches.fetches pair member), settled⟩
    refine each.imp fun pair outcome known => ?_
    obtain ⟨⟨member, before, after, fetched⟩, settles⟩ := known
    exact fares_of_settled (states pair.1 (List.of_mem_zip member).1) fetched settles
  · exact absurd spoils.1 (states pair.1 (List.of_mem_zip member).1).legible

/-- Two stores that answer every read are asked for the blobs of the same batch, and they answer alike under every key
but one. Both calls then give one outcome for each message, and the outcomes are equal wherever the message does not
name the blob of that key. A message fails exactly if its blob cannot be read or has another length than the message
states, where a negative number states none; the failure gives the key of the blob and the identifier of the message.
Any other message is handed over, with the content of its blob and without the two properties if it names one, and as
it is otherwise. -/
theorem faults_contained {messages : List Message} (states : ∀ m ∈ messages, StatesNumber m)
    (answers : r.blobs.AnswersReads) (answers' : r'.blobs.AnswersReads) {s : Scope σ} {t : Scope τ}
    (alike : r.blobs.AlikeBut key s.inner r'.blobs t.inner) :
    ∃ outcomes outcomes', r.Delivers messages s outcomes ∧ r'.Delivers messages t outcomes' ∧
      ∀ (i : Nat) (m : Message), messages[i]? = some m → blobKey? m ≠ some key → outcomes[i]? = outcomes'[i]? := by
  obtain ⟨outcomes, delivered, all⟩ := delivers answers states s
  obtain ⟨outcomes', delivered', all'⟩ := delivers answers' states t
  refine ⟨outcomes, outcomes', delivered, delivered', fun i m placed other => ?_⟩
  have same := runAll_alike answers answers' messages alike i m placed other
  rw [all, all', List.getElem?_map, List.getElem?_map] at same
  exact Option.map_injective (fun _ _ => Except.ok.inj) same

/-- A message that names a blob and states its length. -/
def deposit (id key : String) (n : Int) : Message :=
  { id := some id, properties := .ofList [(contentHeader, key), (lengthHeader, toString n)] }

theorem statesNumber_deposit (id key : String) {n : Int} (small : n.natAbs < 10) : StatesNumber (deposit id key n) := by
  intro stated given
  have present : (deposit id key n).properties.get? lengthHeader = some (toString n) := by
    simp only [deposit, Table.ofList, Table.putAll, List.foldl_cons, List.foldl_nil, Table.get?_put, if_true]
  rw [present] at given
  cases given
  have enough : 10 ≤ 10 ^ Text.digitLimit := Nat.le_self_pow (by decide) 10
  exact ⟨n, Nat.lt_of_lt_of_le small enough, rfl⟩

/-- Two messages share a blob, one of them with a wrong length; two share the blob that is missing on one shelf. -/
def assorted : List Message :=
  [sound, deposit "m2" "a" 2, deposit "m3" "b" 1, deposit "m4" "a" 5, deposit "m5" "b" (-1)]

def shelf (blobs : List (String × Bytes)) : Scope (Messenger.Memory × Store) where
  inner := ({}, { entries := .ofList blobs })
  keys := .cycle ["k"]

theorem faults_contained_assorted :
    ∃ outcomes outcomes', desk.Delivers assorted (shelf [("a", [1, 2]), ("b", [3])]) outcomes ∧
      desk.Delivers assorted (shelf [("a", [1, 2])]) outcomes' ∧
      outcomes[0]? = outcomes'[0]? ∧ outcomes[1]? = outcomes'[1]? ∧ outcomes[3]? = outcomes'[3]? := by
  have states : ∀ m ∈ assorted, StatesNumber m := by
    have bare : StatesNumber sound := fun stated given => by cases given
    simp only [assorted, List.forall_mem_cons]
    refine ⟨bare, statesNumber_deposit _ _ (by decide), statesNumber_deposit _ _ (by decide),
      statesNumber_deposit _ _ (by decide), statesNumber_deposit _ _ (by decide), ?_⟩
    exact List.forall_mem_nil _
  have answers : desk.blobs.AnswersReads := Blobs.memory_works.answersReads.paired
  have alike : desk.blobs.AlikeBut "b" (shelf [("a", [1, 2]), ("b", [3])]).inner desk.blobs
      (shelf [("a", [1, 2])]).inner := by
    refine Blobs.alikeBut_of_still (fun _ _ => rfl) (fun _ _ => rfl) fun other differs => ?_
    have same : (shelf [("a", [1, 2]), ("b", [3])]).inner.2.read? other =
        (shelf [("a", [1, 2])]).inner.2.read? other := by
      simp only [shelf, Store.read?, Table.ofList, Table.putAll, List.foldl_cons, List.foldl_nil, Table.get?_put,
        if_neg differs.symm]
    have answer (scope : Scope (Messenger.Memory × Store)) :
        (desk.blobs.read other scope.inner).1 = .ok (Blobs.readFrom scope.inner.2 other) := rfl
    rw [answer, answer, Blobs.readFrom, Blobs.readFrom, same]
  obtain ⟨outcomes, outcomes', delivered, delivered', same⟩ := faults_contained states answers answers alike
  exact ⟨outcomes, outcomes', delivered, delivered', same 0 _ rfl (by decide), same 1 _ rfl (by decide),
    same 3 _ rfl (by decide)⟩

/-- A negative number that a message states is not compared with the length of its blob. -/
theorem negative_length_not_compared :
    StatesNumber (deposit "m1" "b" (-3)) ∧ (-3 : Int) ≠ ([1, 2] : Bytes).length ∧
      ∃ m later, desk.restoreAll [deposit "m1" "b" (-3)] mailbox = (.ok [.ok m], later) ∧ m.content = [1, 2] :=
  ⟨statesNumber_deposit _ _ (by decide), by decide, _, _, rfl, rfl⟩

end Restorer
end Offload
end Depot
