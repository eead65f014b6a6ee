import Depot.Proofs.Blobs.Flaky
import Depot.Proofs.Offload.Delivery

namespace Depot

variable {σ τ α : Type}

/-- A publisher that has a store of blobs beside it. -/
def Publisher.paired (p : Publisher σ) : Publisher (σ × τ) where
  put m := (p.put m).zoom Prod.fst fun s pair => (s, pair.2)
  putAll messages := (p.putAll messages).zoom Prod.fst fun s pair => (s, pair.2)
  quoted := p.quoted

/-- A publisher that takes a whole batch or fails and takes nothing. What it has taken is seen as a list of
what `seen` tells of each message. -/
def Publisher.AllOrNothing (p : Publisher σ) (taken : σ → List α) (seen : Message → α) : Prop :=
  ∀ messages s, ∃ result s', p.putAll messages s = (.ok result, s') ∧
    (result = .ok () ∧ taken s' = taken s ++ messages.map seen ∨
      (∃ e, result = .error e) ∧ taken s' = taken s)

/-- The messenger in memory gives identifiers to messages, and else takes them as they are. -/
theorem Messenger.memory_allOrNothing (channel : String) :
    (memory.publisher channel).AllOrNothing (fun s => (s.queue channel).map (Message.withId none))
      (Message.withId none) := by
  intro messages s
  refine ⟨.ok (), s.send channel messages, rfl, Or.inl ⟨rfl, ?_⟩⟩
  have blind := map_stampAll (f := Message.withId none) (fun _ _ => rfl) s.ids messages
  simp only [Memory.queue_send, if_true, List.map_append, blind]

namespace Offload

/-- The blobs of a batch, key and content: one for each message with content beyond the limit, in order. -/
def blobsFor (limit : Int) : Supply → List Message → List (String × Bytes)
  | _, [] => []
  | keys, m :: rest =>
    if m.content.length ≤ limit then blobsFor limit keys rest
    else (keys.next, m.content) :: blobsFor limit keys.advance rest

/-- What goes out for a message, which may have a blob under a key. -/
def Sender.wrapped (m : Message) : Option String → Message
  | none => whole m
  | some key => pointer m key

/-- What goes out for a batch. -/
def posted (limit : Int) (keys : Supply) (messages : List Message) : List Message :=
  List.zipWith Sender.wrapped messages (blobKeys limit keys messages)

/-- A map has these blobs besides what was in it before, and nothing else is new. -/
structure Gains (before after : String → Option Bytes) (blobs : List (String × Bytes)) : Prop where
  added : ∀ blob ∈ blobs, after blob.1 = some blob.2
  others : ∀ key ∉ blobs.map Prod.fst, after key = before key

variable {b : Blobs τ} {held : τ → String → Option Bytes} {faultless : τ → Prop}

/-- The store after blobs were written one after another, whatever became of each. -/
def storedBy (b : Blobs τ) : List (String × Bytes) → τ → τ
  | [], t => t
  | blob :: rest, t => storedBy b rest (b.write blob.1 (.bytes blob.2) t).2

def failureIn : Attempt (Outcome Unit) → Option Failure
  | .ok (.error e) => some e
  | _ => none

/-- How the write under a key fails, if it does, when blobs are written one after another. -/
def failureOf (b : Blobs τ) : List (String × Bytes) → τ → String → Option Failure
  | [], _, _ => none
  | blob :: rest, t, key =>
    if blob.1 = key then failureIn (b.write blob.1 (.bytes blob.2) t).1
    else failureOf b rest (b.write blob.1 (.bytes blob.2) t).2 key

/-- The blobs that could be written. -/
def written (failed : String → Option Failure) (blobs : List (String × Bytes)) : List (String × Bytes) :=
  blobs.filter fun blob => (failed blob.1).isNone

/-- The failure of a batch whose blobs could not all be written: that of the first one, in the order of the
batch. -/
def refusal (failed : String → Option Failure) (blobs : List (String × Bytes)) : Option Failure :=
  blobs.findSome? fun blob => (failed blob.1).map fun e => .offloadWriteFailed blob.1 (some (.reported e))

section

variable {failed : String → Option Failure} {blob : String × Bytes} {e : Failure}

theorem written_cons_of_none (ends : failed blob.1 = none) (rest : List (String × Bytes)) :
    written failed (blob :: rest) = blob :: written failed rest :=
  List.filter_cons_of_pos (by rw [ends]; rfl)

theorem written_cons_of_some (ends : failed blob.1 = some e) (rest : List (String × Bytes)) :
    written failed (blob :: rest) = written failed rest :=
  List.filter_cons_of_neg (by rw [ends]; exact Bool.false_ne_true)

theorem refusal_cons_of_none (ends : failed blob.1 = none) (rest : List (String × Bytes)) :
    refusal failed (blob :: rest) = refusal failed rest := by
  rw [refusal, List.findSome?_cons, ends]
  rfl

theorem refusal_cons_of_some (ends : failed blob.1 = some e) (rest : List (String × Bytes)) :
    refusal failed (blob :: rest) = some (.offloadWriteFailed blob.1 (some (.reported e))) := by
  rw [refusal, List.findSome?_cons, ends]
  rfl

end

/-- What is known of the writes of some blobs. -/
def Foretold (b : Blobs τ) (failed : String → Option Failure) (blobs : List (String × Bytes)) (t : τ) :
    Prop :=
  ∀ blob ∈ blobs, failed blob.1 = failureOf b blobs t blob.1

section

variable {failed : String → Option Failure} {blob : String × Bytes} {rest : List (String × Bytes)} {t : τ}

theorem Foretold.head (foretold : Foretold b failed (blob :: rest) t) :
    failed blob.1 = failureIn (b.write blob.1 (.bytes blob.2) t).1 := by
  rw [foretold blob List.mem_cons_self, failureOf, if_pos rfl]

theorem Foretold.tail (foretold : Foretold b failed (blob :: rest) t) (fresh : blob.1 ∉ rest.map Prod.fst) :
    Foretold b failed rest (b.write blob.1 (.bytes blob.2) t).2 := by
  intro other member
  have different : blob.1 ≠ other.1 := fun same => fresh (same ▸ List.mem_map_of_mem member)
  rw [foretold other (List.mem_cons_of_mem _ member), failureOf, if_neg different]

end

/-- The store has gained the blobs that could be written. -/
theorem gains_storedBy (lawful : b.Lawful held faultless) {failed : String → Option Failure}
    {blobs : List (String × Bytes)} (distinct : (blobs.map Prod.fst).Nodup) {t : τ}
    (foretold : Foretold b failed blobs t) :
    Gains (held t) (held (storedBy b blobs t)) (written failed blobs) := by
  induction blobs generalizing t with
  | nil => exact ⟨List.forall_mem_nil _, fun _ _ => rfl⟩
  | cons blob rest ih =>
    rw [List.map_cons, List.nodup_cons] at distinct
    obtain ⟨fresh, distinct⟩ := distinct
    have later := ih distinct (foretold.tail fresh)
    have ends := foretold.head
    -- Keys are distinct, so that no later write changes what this one has left.
    have apart : blob.1 ∉ (written failed rest).map Prod.fst := fun member =>
      fresh ((List.filter_sublist.map _).subset member)
    obtain ⟨result, t', run, ⟨rfl, kept, -⟩ | ⟨⟨e, rfl⟩, same, -⟩⟩ := lawful.write blob.1 blob.2 t
    · rw [run] at ends later
      rw [storedBy, run, written_cons_of_none ends]
      constructor
      · rintro other (_ | ⟨_, member⟩)
        · rw [later.others _ apart, kept, Function.update_self]
        · exact later.added other member
      · intro key away
        rw [List.map_cons, List.mem_cons, not_or] at away
        rw [later.others key away.2, kept, Function.update_of_ne away.1]
    · rw [run] at ends later
      rw [storedBy, run, written_cons_of_some ends]
      exact ⟨later.added, fun key away => (later.others key away).trans (congrFun same key)⟩

/-- What packing a message comes to, given how the blobs fare. -/
def packedAs (failed : String → Option Failure) (m : Message) :
    Option String → Outcome (Message × Option String)
  | none => .ok (Sender.whole m, none)
  | some key =>
    match failed key with
    | none => .ok (Sender.pointer m key, some key)
    | some e => .error (.offloadWriteFailed key (some (.reported e)))

namespace Sender

theorem pack_large (sender : Sender (σ × τ)) (stores : sender.blobs = b.paired) {m : Message}
    (large : ¬ m.content.length ≤ sender.limit) {scope : Scope (σ × τ)} {result : Outcome Unit} {t : τ}
    (run : b.write scope.keys.next (.bytes m.content) scope.inner.2 = (.ok result, t))
    {failed : String → Option Failure} (ends : failed scope.keys.next = failureIn (.ok result)) :
    ∃ later : Scope (σ × τ), sender.pack m scope = (.ok (packedAs failed m (some scope.keys.next)), later) ∧
      later.inner = (scope.inner.1, t) ∧ later.keys = scope.keys.advance := by
  have stored : Scope.within (b.paired.write scope.keys.next (.bytes m.content))
      { scope with keys := scope.keys.advance } =
      (.ok result, { scope with keys := scope.keys.advance }.withStore t) :=
    Scope.within_store run
  unfold pack packedAs
  simp only [if_neg large, stores, ends]
  rw [Action.bind_of_ok (Scope.drawKey_apply scope), Action.bind_of_ok stored]
  cases result with
  | ok done => exact ⟨_, rfl, rfl, rfl⟩
  | error e => exact ⟨_, rfl, rfl, rfl⟩

/-- Every message is packed, whatever becomes of the blobs of those before it. -/
theorem runAll_pack (lawful : b.Lawful held faultless) (sender : Sender (σ × τ))
    (stores : sender.blobs = b.paired) {failed : String → Option Failure} (messages : List Message)
    (scope : Scope (σ × τ))
    (distinct : ((blobsFor sender.limit scope.keys messages).map Prod.fst).Nodup)
    (foretold : Foretold b failed (blobsFor sender.limit scope.keys messages) scope.inner.2) :
    ∃ later : Scope (σ × τ), Action.runAll (messages.map sender.pack) scope =
        ((List.zipWith (packedAs failed) messages (blobKeys sender.limit scope.keys messages)).map .ok,
          later) ∧
      later.inner =
        (scope.inner.1, storedBy b (blobsFor sender.limit scope.keys messages) scope.inner.2) := by
  induction messages generalizing scope with
  | nil => exact ⟨scope, rfl, rfl⟩
  | cons m rest ih =>
    by_cases small : m.content.length ≤ sender.limit
    · rw [blobsFor, if_pos small] at distinct foretold ⊢
      obtain ⟨later, others, inner⟩ := ih scope distinct foretold
      refine ⟨later, ?_, inner⟩
      rw [List.map_cons, Action.runAll_cons (sender.pack_small small scope), others, blobKeys, if_pos small]
      rfl
    · rw [blobsFor, if_neg small] at distinct foretold ⊢
      rw [List.map_cons, List.nodup_cons] at distinct
      obtain ⟨result, t, run, -⟩ := lawful.write scope.keys.next m.content scope.inner.2
      have ends := foretold.head
      have tail := foretold.tail distinct.1
      rw [run] at ends tail
      obtain ⟨middle, first, inner, keys⟩ := sender.pack_large stores small run ends
      -- The rest is packed with the next key and in the store that this write has left.
      obtain ⟨later, others, final⟩ := ih middle (keys ▸ distinct.2) (by rw [keys, inner]; exact tail)
      rw [keys] at others final
      rw [inner] at final
      refine ⟨later, ?_, ?_⟩
      · rw [List.map_cons, Action.runAll_cons first, others, blobKeys, if_neg small]
        rfl
      · rw [final, storedBy, run]

end Sender

/-- The outcomes of a batch, taken together, are the first failure, or everything that is to go out. -/
theorem mapM_packedAs (failed : String → Option Failure) (limit : Int) (keys : Supply)
    (messages : List Message) :
    (List.zipWith (packedAs failed) messages (blobKeys limit keys messages)).mapM id =
      match refusal failed (blobsFor limit keys messages) with
      | some e => .error e
      | none => .ok (List.zipWith (fun m key => (Sender.wrapped m key, key)) messages
          (blobKeys limit keys messages)) := by
  induction messages generalizing keys with
  | nil => rfl
  | cons m rest ih =>
    rw [blobKeys, blobsFor]
    by_cases small : m.content.length ≤ limit
    · rw [if_pos small, if_pos small, List.zipWith_cons_cons, List.mapM_cons, ih]
      cases refusal failed (blobsFor limit keys rest) <;> rfl
    · rw [if_neg small, if_neg small, List.zipWith_cons_cons, List.mapM_cons, ih, packedAs]
      cases ends : failed keys.next with
      | some e =>
        rw [refusal_cons_of_some ends]
        rfl
      | none =>
        rw [refusal_cons_of_none ends]
        cases refusal failed (blobsFor limit keys.advance rest) <;> rfl

/-- The keys that the outcomes of a batch tell of are those of the blobs that were written. -/
theorem keys_packedAs (failed : String → Option Failure) (limit : Int) (keys : Supply)
    (messages : List Message) :
    (List.zipWith (packedAs failed) messages (blobKeys limit keys messages)).filterMap
        (fun p => p.toOption.bind Prod.snd) =
      (written failed (blobsFor limit keys messages)).map Prod.fst := by
  induction messages generalizing keys with
  | nil => rfl
  | cons m rest ih =>
    rw [blobKeys, blobsFor]
    by_cases small : m.content.length ≤ limit
    · rw [if_pos small, if_pos small, List.zipWith_cons_cons, ← ih]
      rfl
    · rw [if_neg small, if_neg small, List.zipWith_cons_cons, List.filterMap_cons, ih, packedAs]
      cases ends : failed keys.next with
      | some e =>
        rw [written_cons_of_some ends]
        rfl
      | none =>
        rw [written_cons_of_none ends]
        rfl

/-- Removing what a map has gained leaves what was in it before, as long as that was under other keys. -/
theorem Gains.undo {before after : String → Option Bytes} {blobs : List (String × Bytes)}
    (gains : Gains before after blobs) (new : ∀ blob ∈ blobs, before blob.1 = none) :
    withoutKeys after (blobs.map Prod.fst) = before := by
  funext key
  by_cases gained : key ∈ blobs.map Prod.fst
  · rw [withoutKeys_of_mem gained]
    obtain ⟨blob, member, rfl⟩ := List.mem_map.mp gained
    exact (new blob member).symm
  · rw [withoutKeys_of_not_mem gained, gains.others key gained]

theorem refusal_eq_none_iff {failed : String → Option Failure} {blobs : List (String × Bytes)} :
    refusal failed blobs = none ↔ ∀ blob ∈ blobs, failed blob.1 = none := by
  rw [refusal, List.findSome?_eq_none_iff]
  simp only [Option.map_eq_none_iff]

theorem written_of_refusal_none {failed : String → Option Failure} {blobs : List (String × Bytes)}
    (all : refusal failed blobs = none) : written failed blobs = blobs := by
  refine List.filter_eq_self.mpr fun blob member => ?_
  rw [refusal_eq_none_iff.mp all blob member, Option.isNone_none]

/-- What has become of blobs that were written in vain: they are gone if they are cleaned up and the store
lets them go, and else they are still there. -/
structure Sender.GivenUp (sender : Sender (σ × τ)) (b : Blobs τ) (blobs : List (String × Bytes)) (t : τ)
    (before after : String → Option Bytes) : Prop where
  cleaned : sender.Cleans b (blobs.map Prod.fst) t → after = before
  kept : ¬ sender.Cleans b (blobs.map Prod.fst) t → Gains before after blobs

namespace Sender

theorem discard_written (lawful : b.Lawful held faultless) (sender : Sender (σ × τ))
    (stores : sender.blobs = b.paired) {before : String → Option Bytes} {blobs : List (String × Bytes)}
    (new : ∀ blob ∈ blobs, before blob.1 = none) (scope : Scope (σ × τ))
    (gains : Gains before (held scope.inner.2) blobs) :
    ∃ later : Scope (σ × τ), sender.discard (blobs.map Prod.fst) scope = (.ok (), later) ∧
      later.inner.1 = scope.inner.1 ∧ sender.GivenUp b blobs scope.inner.2 before (held later.inner.2) := by
  obtain ⟨later, run, messenger, -, -, ⟨kept, same⟩ | ⟨cleans, gone⟩⟩ :=
    discard_cases lawful sender stores (blobs.map Prod.fst) scope
  · exact ⟨later, run, messenger, fun cleans => absurd cleans kept, fun _ => same ▸ gains⟩
  · exact ⟨later, run, messenger, fun _ => gone.trans (gains.undo new), fun kept => absurd cleans kept⟩

/-- A state of the store in which a batch can be told apart from what was there before. -/
structure Room (sender : Sender (σ × τ)) (held : τ → String → Option Bytes) (messages : List Message)
    (scope : Scope (σ × τ)) : Prop where
  distinct : ((blobsFor sender.limit scope.keys messages).map Prod.fst).Nodup
  new : ∀ blob ∈ blobsFor sender.limit scope.keys messages, held scope.inner.2 blob.1 = none

variable {sender : Sender (σ × τ)} {messages : List Message} {scope : Scope (σ × τ)}

/-- After packing, the messenger is as it was, and the store has gained the blobs that could be written. -/
theorem Room.packed (room : sender.Room held messages scope) (lawful : b.Lawful held faultless)
    (stores : sender.blobs = b.paired) {failed : String → Option Failure}
    (fares : failed = failureOf b (blobsFor sender.limit scope.keys messages) scope.inner.2) :
    ∃ packed : Scope (σ × τ), Action.gather (messages.map sender.pack) scope =
        (.ok (List.zipWith (packedAs failed) messages (blobKeys sender.limit scope.keys messages)), packed) ∧
      packed.inner = (scope.inner.1, storedBy b (blobsFor sender.limit scope.keys messages) scope.inner.2) ∧
      Gains (held scope.inner.2) (held packed.inner.2)
        (written failed (blobsFor sender.limit scope.keys messages)) := by
  have foretold : Foretold b failed (blobsFor sender.limit scope.keys messages) scope.inner.2 :=
    fun blob _ => congrFun fares blob.1
  obtain ⟨packed, run, inner⟩ := sender.runAll_pack lawful stores messages scope room.distinct foretold
  refine ⟨packed, ?_, inner, inner ▸ gains_storedBy lawful room.distinct foretold⟩
  rw [Action.gather_apply, run, Outcome.mapM_id_eq_ok_iff.mpr rfl]

/-- A batch of which a blob could not be written is not published. -/
theorem Room.refused (room : sender.Room held messages scope) (lawful : b.Lawful held faultless)
    (stores : sender.blobs = b.paired) {failed : String → Option Failure}
    (fares : failed = failureOf b (blobsFor sender.limit scope.keys messages) scope.inner.2) {e : Failure}
    (refused : refusal failed (blobsFor sender.limit scope.keys messages) = some e) :
    ∃ later : Scope (σ × τ), sender.putAll messages scope = (.ok (.error e), later) ∧
      later.inner.1 = scope.inner.1 ∧
      sender.GivenUp b (written failed (blobsFor sender.limit scope.keys messages))
        (storedBy b (blobsFor sender.limit scope.keys messages) scope.inner.2) (held scope.inner.2)
        (held later.inner.2) := by
  have something : messages ≠ [] := by
    rintro rfl
    cases refused
  obtain ⟨packed, gathered, inner, gains⟩ := room.packed lawful stores fares
  have new (blob) (member : blob ∈ written failed (blobsFor sender.limit scope.keys messages)) :=
    room.new blob (List.mem_filter.mp member).1
  obtain ⟨later, run, messenger, givenUp⟩ := discard_written lawful sender stores new packed gains
  rw [inner] at messenger givenUp
  refine ⟨later, ?_, messenger, givenUp⟩
  unfold putAll
  rw [if_neg (by simpa using something), Action.bind_of_ok gathered, keys_packedAs, mapM_packedAs, refused]
  exact Action.bind_of_ok run

/-- A batch whose blobs are all written goes to the publisher, whose answer counts. -/
theorem Room.offered (room : sender.Room held messages scope) (lawful : b.Lawful held faultless)
    (stores : sender.blobs = b.paired) {p : Publisher σ} (publishes : sender.publisher = p.paired)
    {failed : String → Option Failure}
    (fares : failed = failureOf b (blobsFor sender.limit scope.keys messages) scope.inner.2)
    (all : refusal failed (blobsFor sender.limit scope.keys messages) = none) (something : messages ≠ [])
    {result : Outcome Unit} {s : σ}
    (answered : p.putAll (posted sender.limit scope.keys messages) scope.inner.1 = (.ok result, s)) :
    ∃ later : Scope (σ × τ), sender.putAll messages scope = (.ok result, later) ∧ later.inner.1 = s ∧
      (result = .ok () →
        Gains (held scope.inner.2) (held later.inner.2) (blobsFor sender.limit scope.keys messages)) ∧
      ∀ e, result = .error e →
        sender.GivenUp b (written failed (blobsFor sender.limit scope.keys messages))
          (storedBy b (blobsFor sender.limit scope.keys messages) scope.inner.2) (held scope.inner.2)
          (held later.inner.2) := by
  obtain ⟨packed, gathered, inner, gains⟩ := room.packed lawful stores fares
  have outgoing : (List.zipWith (fun m key => (wrapped m key, key)) messages
      (blobKeys sender.limit scope.keys messages)).map Prod.fst = posted sender.limit scope.keys messages := by
    rw [List.map_zipWith]
    rfl
  have sent : Scope.within (sender.publisher.putAll (posted sender.limit scope.keys messages)) packed =
      (.ok result, packed.withMessenger s) := by
    rw [publishes]
    exact Scope.within_messenger (by rw [inner]; exact answered)
  unfold putAll
  rw [if_neg (by simpa using something), Action.bind_of_ok gathered, keys_packedAs, mapM_packedAs, all]
  simp only [outgoing, publish, Action.bind_of_ok sent]
  cases result with
  | ok done =>
    rw [written_of_refusal_none all] at gains
    exact ⟨packed.withMessenger s, rfl, rfl, fun _ => gains, fun _ failure => (nomatch failure)⟩
  | error e =>
    have new (blob) (member : blob ∈ written failed (blobsFor sender.limit scope.keys messages)) :=
      room.new blob (List.mem_filter.mp member).1
    obtain ⟨later, run, messenger, givenUp⟩ :=
      discard_written lawful sender stores new (packed.withMessenger s) gains
    have stored : (packed.withMessenger s).inner.2 = packed.inner.2 := rfl
    rw [stored, inner] at givenUp
    exact ⟨later, Action.bind_of_ok run, messenger, fun success => (nomatch success), fun _ _ => givenUp⟩

/-- Publishing a batch whose blobs have distinct keys that are new to the store always comes to a result. It
is a success only if every blob was written and the publisher took the whole batch, in order; the store has
then gained the blobs of the batch and nothing else. If a blob could not be written, nothing is published, and
the result is the failure of the first such blob. If all were written, the result is what the publisher says
of the whole batch. After a failure nothing has been published, and the blobs that could be written have been
given up. -/
theorem putAll_all_or_nothing (lawful : b.Lawful held faultless) {p : Publisher σ} {taken : σ → List α}
    {seen : Message → α} (honest : p.AllOrNothing taken seen) (stores : sender.blobs = b.paired)
    (publishes : sender.publisher = p.paired) (room : sender.Room held messages scope) :
    let blobs := blobsFor sender.limit scope.keys messages
    let failed := failureOf b blobs scope.inner.2
    ∃ result later, sender.putAll messages scope = (.ok result, later) ∧
      (result = .ok () → (∀ blob ∈ blobs, failed blob.1 = none) ∧
        taken later.inner.1 = taken scope.inner.1 ++ (posted sender.limit scope.keys messages).map seen ∧
        Gains (held scope.inner.2) (held later.inner.2) blobs) ∧
      (∀ e, refusal failed blobs = some e → result = .error e ∧ later.inner.1 = scope.inner.1) ∧
      ((∀ blob ∈ blobs, failed blob.1 = none) → messages ≠ [] →
        p.putAll (posted sender.limit scope.keys messages) scope.inner.1 = (.ok result, later.inner.1)) ∧
      ∀ e, result = .error e → taken later.inner.1 = taken scope.inner.1 ∧
        sender.GivenUp b (written failed blobs) (storedBy b blobs scope.inner.2) (held scope.inner.2)
          (held later.inner.2) := by
  intro blobs failed
  by_cases nothing : messages = []
  · subst nothing
    have nothing_new : Gains (held scope.inner.2) (held scope.inner.2) [] :=
      ⟨List.forall_mem_nil _, fun _ _ => rfl⟩
    exact ⟨.ok (), scope, rfl, fun _ => ⟨List.forall_mem_nil _, (List.append_nil _).symm, nothing_new⟩,
      fun _ refused => (nomatch refused), fun _ something => absurd rfl something,
      fun _ failure => (nomatch failure)⟩
  cases refused : refusal failed blobs with
  | some e =>
    obtain ⟨later, run, unpublished, givenUp⟩ := room.refused lawful stores rfl refused
    have some_failed : ¬ ∀ blob ∈ blobs, failed blob.1 = none := by
      rw [← refusal_eq_none_iff, refused]
      exact Option.some_ne_none e
    refine ⟨.error e, later, run, fun success => (nomatch success), ?_, fun all => absurd all some_failed, ?_⟩
    · rintro e' ⟨⟩
      exact ⟨rfl, unpublished⟩
    · exact fun _ _ => ⟨congrArg taken unpublished, givenUp⟩
  | none =>
    have all := refusal_eq_none_iff.mp refused
    obtain ⟨result, s, answered, effect⟩ := honest (posted sender.limit scope.keys messages) scope.inner.1
    obtain ⟨later, run, rfl, gains, givenUp⟩ :=
      room.offered lawful stores publishes rfl refused nothing answered
    refine ⟨result, later, run, fun success => ⟨all, ?_, gains success⟩, fun _ same => (nomatch same),
      fun _ _ => answered, ?_⟩
    · rcases effect with ⟨-, published⟩ | ⟨⟨e, failure⟩, -⟩
      · exact published
      · rw [success] at failure
        cases failure
    · intro e failure
      rcases effect with ⟨success, -⟩ | ⟨-, unpublished⟩
      · rw [success] at failure
        cases failure
      · exact ⟨unpublished, givenUp e failure⟩

/-- A small message and three longer ones. -/
def crate : List Message :=
  [{ content := [1], id := some "first" }, { content := [1, 2, 3] },
    { content := [4, 5, 6], properties := .ofList [("kind", "report")] }, { content := [7, 8, 9] }]

/-- A sender over a store with one blob, whose second write will fail. -/
def shaky : Sender (Messenger.Memory × Flaky Store) :=
  senderOn Messenger.memory Blobs.memory.flaky "jobs" 2 true

def shakyScope : Scope (Messenger.Memory × Flaky Store) where
  inner := ({}, { store := { entries := .ofList [("old", [7])] }
                  plan := fun n => if n = 1 then some (.writeFailed "b" none) else none })
  keys := .cycle ["a", "b", "c"]

theorem putAll_all_or_nothing_shaky :
    blobsFor 2 shakyScope.keys crate = [("a", [1, 2, 3]), ("b", [4, 5, 6]), ("c", [7, 8, 9])] ∧
      ∃ later, shaky.putAll crate shakyScope =
          (.ok (.error (.offloadWriteFailed "b" (some (.reported (Failure.writeFailed "b" none))))), later) ∧
        later.inner.1 = shakyScope.inner.1 ∧ later.inner.2.performed = 4 ∧
        later.inner.2.store.read? = shakyScope.inner.2.store.read? := by
  have room : shaky.Room (fun s => s.store.read?) crate shakyScope := ⟨by decide, by decide⟩
  obtain ⟨result, later, run, -, refused, -, failure⟩ := putAll_all_or_nothing
    (Blobs.flaky_lawful Blobs.memory_works) (Messenger.memory_allOrNothing "jobs") rfl rfl room
  obtain ⟨rfl, unpublished⟩ := refused _ rfl
  have performed : (shaky.putAll crate shakyScope).2.inner.2.performed = 4 := by rfl
  rw [run] at performed
  exact ⟨rfl, later, run, unpublished, performed, (failure _ rfl).2.cleaned ⟨rfl, rfl⟩⟩

end Sender
end Offload
end Depot
