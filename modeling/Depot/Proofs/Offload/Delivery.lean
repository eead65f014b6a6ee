import Depot.Proofs.Messenger.Relay
import Depot.Proofs.Offload.Restoring
import Depot.Proofs.Text.Numeral
import Mathlib.Data.List.ReduceOption

namespace Depot.Offload

open Messenger (stamp stampAll)

/-- A message that says nothing of blobs. -/
structure Plain (m : Message) : Prop where
  content : m.properties.get? contentHeader = none
  length : m.properties.get? lengthHeader = none
  origin : m.origin = none

/-- The keys of the blobs for a batch: the messages with contents beyond the limit get one each, in order. -/
def blobKeys (limit : Int) : Supply → List Message → List (Option String)
  | _, [] => []
  | keys, m :: rest =>
    if m.content.length ≤ limit then none :: blobKeys limit keys rest
    else some keys.next :: blobKeys limit keys.advance rest

/-- What goes out for a message with this key. -/
def packed (m : Message) : Option String → Message
  | none => m
  | some key => Sender.pointer m key

def outgoing (limit : Int) (keys : Supply) (messages : List Message) : List Message :=
  List.zipWith packed messages (blobKeys limit keys messages)

/-- A message as it is handed over: received once more, and with the key of the blob that its content was
fetched from. -/
def arrived (m : Message) (key : Option String) : Message := { m.receive with origin := key }

/-- A batch as it is handed over, every message with its identifier. -/
def delivery (limit : Int) (ids keys : Supply) (messages : List Message) : List Message :=
  List.zipWith arrived (stampAll ids messages).1 (blobKeys limit keys messages)

variable {σ τ : Type} {b : Blobs τ} {held : τ → String → Option Bytes}

theorem Sender.whole_of_plain {m : Message} (plain : Plain m) : whole m = m := by
  have inline : refersToBlob m = false := by
    rw [refersToBlob, Table.contains_eq_isSome, plain.content, Option.isSome_none]
  rw [whole, inline, if_neg Bool.false_ne_true]

/-- The blob of a message, if it has one, has its content. -/
def Stored (map : String → Option Bytes) (m : Message) (key : Option String) : Prop :=
  ∀ k, key = some k → map k = some m.content

theorem Sender.pack_all (works : b.Works held) (sender : Sender (σ × τ)) (stores : sender.blobs = b.paired)
    {messages : List Message} (plain : ∀ m ∈ messages, Plain m) (scope : Scope (σ × τ)) :
    ∃ later : Scope (σ × τ), Action.runAll (messages.map sender.pack) scope =
        ((List.zipWith (fun m key => (packed m key, key)) messages
          (blobKeys sender.limit scope.keys messages)).map fun p => .ok (.ok p), later) ∧
      later.inner.1 = scope.inner.1 ∧
      (∀ key ∉ (blobKeys sender.limit scope.keys messages).reduceOption,
        held later.inner.2 key = held scope.inner.2 key) ∧
      ((blobKeys sender.limit scope.keys messages).reduceOption.Nodup →
        List.Forall₂ (Stored (held later.inner.2)) messages (blobKeys sender.limit scope.keys messages)) := by
  induction messages generalizing scope with
  | nil => exact ⟨scope, rfl, rfl, fun _ _ => rfl, fun _ => .nil⟩
  | cons m rest ih =>
    obtain ⟨atHead, inTail⟩ := List.forall_mem_cons.mp plain
    rcases pack_cases works sender stores m scope with
      ⟨small, run⟩ | ⟨large, middle, run, messenger, keys, blobs, -⟩ | ⟨-, -, -, -, -, -, -, failed⟩
    · obtain ⟨later, runs, same, others, stored⟩ := ih inTail scope
      rw [blobKeys, if_pos small]
      refine ⟨later, ?_, same, others, fun distinct => .cons (fun k given => by cases given) (stored distinct)⟩
      rw [List.map_cons, Action.runAll_cons run, runs, whole_of_plain atHead]
      rfl
    · -- Later blobs have other keys than this one, which is why it is still there at the end.
      obtain ⟨later, runs, same, others, stored⟩ := ih inTail middle
      rw [keys] at runs others stored
      rw [blobKeys, if_neg large]
      refine ⟨later, ?_, same.trans messenger, ?_, ?_⟩
      · rw [List.map_cons, Action.runAll_cons run, runs]
        rfl
      · intro key away
        rw [List.reduceOption_cons_of_some, List.mem_cons, not_or] at away
        rw [others key away.2, blobs, Function.update_of_ne away.1]
      · intro distinct
        rw [List.reduceOption_cons_of_some, List.nodup_cons] at distinct
        refine .cons (fun k given => ?_) (stored distinct.2)
        cases given
        rw [others _ distinct.1, blobs, Function.update_self]
    · exact absurd trivial failed

/-- The two properties of a pointer go, and those of the message are left as they were. -/
theorem properties_pointer {m : Message} (plain : Plain m) (key : String) :
    (Sender.pointer m key).properties.eraseAll reserved = m.properties := by
  have absent : ∀ k ∈ reserved, m.properties.get? k = none := by
    simp only [reserved, List.forall_mem_cons]
    exact ⟨plain.content, plain.length, fun _ none_left => absurd none_left List.not_mem_nil⟩
  have first : contentHeader ∈ reserved := by decide
  have second : lengthHeader ∈ reserved := by decide
  simp only [Sender.pointer, Message.withProperty, Table.eraseAll_put second, Table.eraseAll_put first]
  exact Table.eraseAll_of_absent absent

theorem lengthContradicted_pointer {m : Message} (short : m.content.length < 10 ^ Text.digitLimit)
    (key : String) :
    Restorer.lengthContradicted (Sender.pointer m key).receive m.content = .ok none := by
  have stated : (Sender.pointer m key).receive.properties.get? lengthHeader =
      some (toString m.content.length) := (Sender.pointer_names m key).length
  have agrees : Restorer.contradicts (toString m.content.length) m.content.length = .ok false := by
    rw [Restorer.contradicts, if_pos (Text.isDigits_toString _), Text.readInteger_toString short]
    simp
  rw [Restorer.lengthContradicted, stated]
  simp only [agrees]
  rfl

theorem Restorer.restore_packed (works : b.Works held) (r : Restorer (σ × τ)) (stores : r.blobs = b.paired)
    {m : Message} {key : Option String} (plain : Plain m) (short : m.content.length < 10 ^ Text.digitLimit)
    {scope : Scope (σ × τ)} (stored : Stored (held scope.inner.2) m key) :
    ∃ later : Scope (σ × τ), r.restore (packed m key).receive scope = (.ok (.ok (arrived m key)), later) ∧
      held later.inner.2 = held scope.inner.2 := by
  cases key with
  | none =>
    refine ⟨scope, ?_, rfl⟩
    have inline : (packed m none).receive.properties.get? contentHeader = none := plain.content
    have same : arrived m none = m.receive := by
      rw [arrived, ← plain.origin]
      rfl
    rw [restore, inline, same]
    rfl
  | some k =>
    have names : (packed m (some k)).receive.properties.get? contentHeader = some k :=
      (Sender.pointer_names m k).key
    obtain ⟨t, run, same⟩ := works.read (stored k rfl)
    have read : Scope.within (r.blobs.read k) scope = (.ok (.ok m.content), scope.withStore t) := by
      rw [stores]
      exact Scope.within_store run
    have checked : Action.ofAttempt (lengthContradicted (packed m (some k)).receive m.content)
        (scope.withStore t) = (.ok none, scope.withStore t) := by
      rw [Action.ofAttempt, packed, lengthContradicted_pointer short]
    have made : restored (packed m (some k)).receive k m.content = arrived m (some k) := by
      have properties : (packed m (some k)).receive.properties.eraseAll reserved = m.properties :=
        properties_pointer plain k
      rw [restored, properties]
      rfl
    unfold restore
    rw [names, ← made]
    exact ⟨_, (Action.bind_of_ok read).trans (Action.bind_of_ok checked), same⟩

theorem Restorer.restore_all (works : b.Works held) (r : Restorer (σ × τ)) (stores : r.blobs = b.paired)
    {map : String → Option Bytes} {messages : List Message} {keys : List (Option String)}
    (each : List.Forall₂ (fun m key => Plain m ∧ m.content.length < 10 ^ Text.digitLimit ∧ Stored map m key)
      messages keys) {scope : Scope (σ × τ)} (same : held scope.inner.2 = map) :
    ∃ later, r.restoreAll ((List.zipWith packed messages keys).map Message.receive) scope =
      (.ok ((List.zipWith arrived messages keys).map .ok), later) := by
  have run : ∃ later,
      Action.runAll (((List.zipWith packed messages keys).map Message.receive).map r.restore) scope =
        ((List.zipWith arrived messages keys).map fun m => .ok (.ok m), later) := by
    induction each generalizing scope with
    | nil => exact ⟨scope, rfl⟩
    | cons known _ ih =>
      obtain ⟨plain, short, stored⟩ := known
      obtain ⟨middle, first, unchanged⟩ := r.restore_packed works stores plain short (same ▸ stored)
      obtain ⟨later, others⟩ := ih (unchanged.trans same)
      refine ⟨later, ?_⟩
      rw [List.zipWith_cons_cons, List.map_cons, List.map_cons, Action.runAll_cons first, others]
      rfl
  obtain ⟨later, run⟩ := run
  refine ⟨later, ?_⟩
  rw [restoreAll, Action.gather_apply, run, Outcome.mapM_id_eq_ok_iff.mpr]
  rw [List.map_map]
  rfl

theorem stamp_packed (ids : Supply) (m : Message) (key : Option String) :
    stamp ids (packed m key) = (packed (stamp ids m).1 key, (stamp ids m).2) := by
  obtain ⟨content, id, properties, received, origin⟩ := m
  cases key <;> cases id <;> rfl

theorem stampAll_packed (ids : Supply) (messages : List Message) (keys : List (Option String)) :
    (stampAll ids (List.zipWith packed messages keys)).1 =
      List.zipWith packed (stampAll ids messages).1 keys := by
  induction messages generalizing ids keys with
  | nil => rfl
  | cons m rest ih =>
    cases keys with
    | nil => rw [List.zipWith_nil_right, List.zipWith_nil_right, Messenger.stampAll_nil]
    | cons key more =>
      rw [List.zipWith_cons_cons, Messenger.stampAll_cons, stamp_packed, ih, Messenger.stampAll_cons,
        List.zipWith_cons_cons]

/-- The batch is published, and receiving so many messages hands it over again: one success for each message,
in the order of the batch. -/
def Returns (m : Messenger σ) (b : Blobs τ) (channel : String) (limit : Int) (cleanUp deleteOnConfirm : Bool)
    (ids : Supply) (messages : List Message) (count : Int) (scope : Scope (σ × τ)) : Prop :=
  ∃ published later,
    (senderOn m b channel limit cleanUp).putAll messages scope = (.ok (.ok ()), published) ∧
      (restorerOn m b channel deleteOnConfirm).receive count published =
        (.ok (.ok ((delivery limit ids scope.keys messages).map .ok)), later)

/-- Publishing leaves the blobs of the batch in the store and the messages with the messenger. -/
theorem Sender.putAll_works (works : b.Works held) {m : Messenger σ} {channel : String} {limit : Int}
    (cleanUp : Bool) {messages : List Message} (plain : ∀ m ∈ messages, Plain m) {scope : Scope (σ × τ)}
    (distinct : (blobKeys limit scope.keys messages).reduceOption.Nodup) {sent : σ}
    (posted : if outgoing limit scope.keys messages = [] then sent = scope.inner.1
      else m.send channel (outgoing limit scope.keys messages) scope.inner.1 = (.ok (.ok ()), sent)) :
    ∃ published, (senderOn m b channel limit cleanUp).putAll messages scope = (.ok (.ok ()), published) ∧
      published.inner.1 = sent ∧
      List.Forall₂ (Stored (held published.inner.2)) messages (blobKeys limit scope.keys messages) := by
  by_cases nothing : messages = []
  · subst nothing
    have unsent : sent = scope.inner.1 := posted
    exact ⟨scope, rfl, unsent.symm, .nil⟩
  have some_out : outgoing limit scope.keys messages ≠ [] := by
    cases messages with
    | nil => exact absurd rfl nothing
    | cons m rest =>
      rw [outgoing, blobKeys]
      split <;> exact List.cons_ne_nil _ _
  rw [if_neg some_out] at posted
  obtain ⟨written, runs, messenger, -, stored⟩ :=
    Sender.pack_all works (senderOn m b channel limit cleanUp) rfl plain scope
  let pairs := List.zipWith (fun m key => (packed m key, key)) messages (blobKeys limit scope.keys messages)
  have gathered : Action.gather (messages.map (senderOn m b channel limit cleanUp).pack) scope =
      (.ok (pairs.map .ok), written) := by
    rw [Action.gather_apply, runs, Outcome.mapM_id_eq_ok_iff.mpr]
    rw [List.map_map]
    rfl
  have whole : (pairs.map .ok : List (Outcome (Message × Option String))).mapM id = .ok pairs :=
    Outcome.mapM_id_eq_ok_iff.mpr rfl
  have messages_out : pairs.map Prod.fst = outgoing limit scope.keys messages := by
    rw [List.map_zipWith]
    rfl
  have transmitted : Scope.within ((senderOn m b channel limit cleanUp).publisher.putAll (pairs.map Prod.fst))
      written = (.ok (.ok ()), written.withMessenger sent) := by
    rw [messages_out]
    exact Scope.within_messenger (messenger ▸ posted)
  refine ⟨written.withMessenger sent, ?_, rfl, stored distinct⟩
  unfold putAll
  rw [if_neg (by simpa using nothing), Action.bind_of_ok gathered]
  simp only [whole]
  exact Action.bind_of_ok transmitted

theorem returns_of_relays (works : b.Works held) {m : Messenger σ} {channel : String} {limit count : Int}
    (cleanUp deleteOnConfirm : Bool) {ids : Supply} {messages : List Message} {scope : Scope (σ × τ)}
    (plain : ∀ m ∈ messages, Plain m) (short : ∀ m ∈ messages, m.content.length < 10 ^ Text.digitLimit)
    (distinct : (blobKeys limit scope.keys messages).reduceOption.Nodup)
    (relays : m.Relays channel ids (outgoing limit scope.keys messages) count scope.inner.1) :
    Returns m b channel limit cleanUp deleteOnConfirm ids messages count scope := by
  obtain ⟨sent, after, posted, received⟩ := relays
  obtain ⟨published, run, there, stored⟩ := Sender.putAll_works works cleanUp plain distinct posted
  have each : List.Forall₂ (fun m key =>
      Plain m ∧ m.content.length < 10 ^ Text.digitLimit ∧ Stored (held published.inner.2) m key)
      (stampAll ids messages).1 (blobKeys limit scope.keys messages) := by
    refine Messenger.forall₂_stampAll (fun m id key known => ?_) ?_ ids
    · exact ⟨⟨known.1.content, known.1.length, known.1.origin⟩, known.2⟩
    · exact (List.forall₂_and_left _ _).mpr ⟨plain, (List.forall₂_and_left _ _).mpr ⟨short, stored⟩⟩
  have taken : Scope.within ((restorerOn m b channel deleteOnConfirm).receiver.receive count) published =
      (.ok (.ok ((List.zipWith packed (stampAll ids messages).1
        (blobKeys limit scope.keys messages)).map Message.receive)), published.withMessenger after) := by
    rw [outgoing, stampAll_packed, ← there] at received
    exact Scope.within_messenger received
  obtain ⟨later, restored⟩ := (restorerOn m b channel deleteOnConfirm).restore_all works rfl each
    (show held (published.withMessenger after).inner.2 = _ from rfl)
  refine ⟨published, later, run, (Action.onSuccess_of_ok taken).trans ?_⟩
  exact (Action.bind_of_ok restored).trans rfl

end Depot.Offload
