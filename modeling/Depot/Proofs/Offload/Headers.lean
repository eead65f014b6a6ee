import Depot.Messenger.Memory
import Depot.Proofs.Action.Relations
import Depot.Proofs.Offload.Packing
import Depot.Proofs.Outcome
import Depot.Proofs.Supply

namespace Depot

variable {σ : Type}

/-- A state together with what has been seen of it: the blobs that have been written, and the batches that a
publisher has been given, each with the state of that moment. -/
structure Overseen (σ : Type) where
  now : σ
  written : List (String × Bytes) := []
  given : List (List Message × σ) := []

/-- What is seen of a write: the blob, if it has been written. -/
def Overseen.noted (key : String) : Content → Attempt (Outcome Unit) → List (String × Bytes)
  | .bytes data, .ok (.ok _) => [(key, data)]
  | _, _ => []

/-- A store whose writes are seen. -/
def Blobs.overseen (b : Blobs σ) : Blobs (Overseen σ) :=
  { b.zoom Overseen.now fun now s => { s with now } with
    write := fun key content s =>
      ((b.write key content s.now).1,
        { s with
          now := (b.write key content s.now).2
          written := s.written ++ Overseen.noted key content (b.write key content s.now).1 }) }

/-- A publisher that is seen. -/
def Publisher.overseen (p : Publisher σ) : Publisher (Overseen σ) where
  put m s := ((p.put m s.now).1, { s with now := (p.put m s.now).2, given := s.given ++ [([m], s.now)] })
  putAll messages s :=
    ((p.putAll messages s.now).1,
      { s with now := (p.putAll messages s.now).2, given := s.given ++ [(messages, s.now)] })
  quoted := p.quoted

namespace Offload

def Scope.overseen (scope : Scope σ) : Scope (Overseen σ) := ⟨{ now := scope.inner }, scope.keys, scope.log⟩

def Sender.overseen (sender : Sender σ) : Sender (Overseen σ) :=
  ⟨sender.publisher.overseen, sender.blobs.overseen, sender.limit, sender.cleanUp⟩

/-- The same scope, apart from what has been seen. -/
structure Sees (s : Scope (Overseen σ)) (t : Scope σ) : Prop where
  inner : s.inner.now = t.inner
  keys : s.keys = t.keys
  log : s.log = t.log

namespace Sees

open Depot.Action (Agree)

variable {α : Type}

theorem within {act : Action (Overseen σ) α} {act' : Action σ α}
    (same : Agree (fun s t => s.now = t) act act') : Agree Sees (Scope.within act) (Scope.within act') :=
  same.zoom (fun _ _ sees => sees.inner) fun _ _ _ _ sees inner => ⟨inner, sees.keys, sees.log⟩

theorem write (level : Log.Level) (message : String) (fields : List (String × Value)) :
    Agree (σ := Scope (Overseen σ)) Sees (Scope.write level message fields) (Scope.write level message fields) :=
  fun _ _ sees => ⟨rfl, sees.inner, sees.keys, congrArg (· ++ _) sees.log⟩

theorem drawKey : Agree (Sees (σ := σ)) Scope.drawKey Scope.drawKey :=
  fun _ _ sees => ⟨congrArg (fun keys : Supply => (.ok keys.next : Attempt String)) sees.keys, sees.inner,
    congrArg Supply.advance sees.keys, sees.log⟩

theorem pure (a : α) : Agree (Sees (σ := σ)) (Pure.pure a) (Pure.pure a) :=
  .still (.ok a) (fun _ => rfl) fun _ => rfl

theorem runAll {α β : Type} {f : β → Action (Scope (Overseen σ)) α} {f' : β → Action (Scope σ) α}
    (each : ∀ b, Agree Sees (f b) (f' b)) (bs : List β) {s : Scope (Overseen σ)} {t : Scope σ} (sees : Sees s t) :
    (Action.runAll (bs.map f) s).1 = (Action.runAll (bs.map f') t).1 ∧
      Sees (Action.runAll (bs.map f) s).2 (Action.runAll (bs.map f') t).2 := by
  induction bs generalizing s t with
  | nil => exact ⟨rfl, sees⟩
  | cons b rest ih =>
    obtain ⟨same, after⟩ := each b s t sees
    obtain ⟨others, last⟩ := ih after
    exact ⟨congrArg₂ List.cons same others, last⟩

theorem gather {α β : Type} {f : β → Action (Scope (Overseen σ)) α} {f' : β → Action (Scope σ) α}
    (each : ∀ b, Agree Sees (f b) (f' b)) (bs : List β) :
    Agree Sees (Action.gather (bs.map f)) (Action.gather (bs.map f')) := by
  intro s t sees
  obtain ⟨same, after⟩ := runAll each bs sees
  exact ⟨congrArg (List.mapM id) same, after⟩

end Sees

namespace Sender

open Depot.Action (Agree)

variable (sender : Sender σ)

theorem agree_pack (m : Message) : Agree Sees (sender.overseen.pack m) (sender.pack m) := by
  have limit : sender.overseen.limit = sender.limit := rfl
  by_cases small : m.content.length ≤ sender.limit
  · simp only [pack, limit, if_pos small]
    exact Sees.pure _
  · simp only [pack, limit, if_neg small]
    refine Sees.drawKey.bind fun key => Agree.bind (Sees.within fun s t same => ?_) fun result => ?_
    · subst same
      exact ⟨rfl, rfl⟩
    · cases result with
      | error e => exact (Sees.write _ _ _).bind fun _ => Sees.pure _
      | ok done => exact (Sees.write _ _ _).bind fun _ => Sees.pure _

theorem agree_discard (keys : List String) : Agree Sees (sender.overseen.discard keys) (sender.discard keys) := by
  unfold discard
  split
  · exact Sees.pure _
  change Agree Sees (if !sender.cleanUp then _ else _) _
  split
  · exact Sees.write _ _ _
  · refine Agree.bind (Sees.within fun s t same => ?_) fun result => ?_
    · subst same
      exact ⟨rfl, rfl⟩
    · cases result with
      | error e => exact Sees.write _ _ _
      | ok done => exact Sees.write _ _ _

theorem agree_publish (keys : List String) {act : Action (Overseen σ) (Outcome Unit)}
    {act' : Action σ (Outcome Unit)} (same : Agree (fun s t => s.now = t) act act') :
    Agree Sees (sender.overseen.publish keys act) (sender.publish keys act') := by
  refine (Sees.within same).bind fun result => ?_
  cases result with
  | error e => exact (sender.agree_discard keys).bind fun _ => Sees.pure _
  | ok done => exact Sees.pure _

theorem agree_put (m : Message) : Agree Sees (sender.overseen.put m) (sender.put m) := by
  refine (sender.agree_pack m).onSuccess fun p => sender.agree_publish p.2.toList fun s t same => ?_
  subst same
  exact ⟨rfl, rfl⟩

theorem agree_putAll (messages : List Message) :
    Agree Sees (sender.overseen.putAll messages) (sender.putAll messages) := by
  unfold putAll
  split
  · exact Sees.pure _
  refine (Sees.gather sender.agree_pack messages).bind fun outcomes => ?_
  dsimp only
  split
  · exact (sender.agree_discard _).bind fun _ => Sees.pure _
  · refine sender.agree_publish _ fun s t same => ?_
    subst same
    exact ⟨rfl, rfl⟩

end Sender

/-- Neither of the reserved properties and the content, or both and no content: the key of a blob that has been
written with the content, and its length. -/
def AllOrNone (written : List (String × Bytes)) (m out : Message) : Prop :=
  (out.properties.get? contentHeader = none ∧ out.properties.get? lengthHeader = none ∧ out.content = m.content) ∨
    ∃ key, Names out key m.content ∧ out.content = [] ∧ (key, m.content) ∈ written

/-- A message that stays whole, with a length among its properties and no key. -/
structure Stray (limit : Int) (m : Message) : Prop where
  small : m.content.length ≤ limit
  keyless : m.properties.get? contentHeader = none
  length : m.properties.get? lengthHeader ≠ none

/-- What goes out for a message. Of a stray one it is the message itself, and of any other the reserved properties
are all there or none. -/
structure GoesOut (limit : Int) (written : List (String × Bytes)) (m out : Message) : Prop where
  id : out.id = m.id
  received : out.received = m.received
  origin : out.origin = m.origin
  others : ∀ name ∉ reserved, out.properties.get? name = m.properties.get? name
  headers : AllOrNone written m out ↔ ¬ Stray limit m
  stray : Stray limit m → out = m

theorem AllOrNone.mono {written more : List (String × Bytes)} {m out : Message} (headers : AllOrNone written m out)
    (within : written ⊆ more) : AllOrNone more m out :=
  headers.imp_right fun ⟨key, names, bare, member⟩ => ⟨key, names, bare, within member⟩

theorem not_allOrNone_of_stray {limit : Int} {written : List (String × Bytes)} {m : Message}
    (stray : Stray limit m) : ¬ AllOrNone written m m := by
  rintro (⟨-, length, -⟩ | ⟨key, names, -, -⟩)
  · exact stray.length length
  · have keyless := stray.keyless
    rw [show m.properties.get? contentHeader = some key from names.key] at keyless
    cases keyless

theorem GoesOut.mono {limit : Int} {written more : List (String × Bytes)} {m out : Message}
    (goes : GoesOut limit written m out) (within : written ⊆ more) : GoesOut limit more m out where
  id := goes.id
  received := goes.received
  origin := goes.origin
  others := goes.others
  headers := by
    refine ⟨fun headers stray => ?_, fun tidy => (goes.headers.mpr tidy).mono within⟩
    rw [goes.stray stray] at headers
    exact not_allOrNone_of_stray stray headers
  stray := goes.stray

namespace Sender

/-- A message that stays whole loses both properties if it has a key, and else it stays as it is. -/
theorem goesOut_whole {limit : Int} {m : Message} (small : m.content.length ≤ limit)
    (written : List (String × Bytes)) : GoesOut limit written m (whole m) := by
  unfold whole
  by_cases refers : refersToBlob m
  · have key : m.properties.get? contentHeader ≠ none := by
      rwa [refersToBlob, Table.contains_eq_isSome, Option.isSome_iff_ne_none] at refers
    rw [if_pos refers]
    refine ⟨rfl, rfl, rfl, fun name other => ?_, ?_, fun stray => absurd stray.keyless key⟩
    · rw [Message.withoutProperties, Table.get?_eraseAll, if_neg other]
    · refine iff_of_true (Or.inl ⟨?_, ?_, rfl⟩) fun stray => key stray.keyless
      · rw [Message.withoutProperties, Table.get?_eraseAll, if_pos (by decide)]
      · rw [Message.withoutProperties, Table.get?_eraseAll, if_pos (by decide)]
  · have keyless : m.properties.get? contentHeader = none := by
      rwa [refersToBlob, Table.contains_eq_isSome, Option.isSome_iff_ne_none, not_not] at refers
    rw [if_neg refers]
    refine ⟨rfl, rfl, rfl, fun _ _ => rfl, ⟨fun headers stray => not_allOrNone_of_stray stray headers, ?_⟩,
      fun _ => rfl⟩
    intro tidy
    refine Or.inl ⟨keyless, ?_, rfl⟩
    by_contra length
    exact tidy ⟨small, keyless, length⟩

theorem goesOut_pointer {limit : Int} {m : Message} (large : ¬ m.content.length ≤ limit) {key : String}
    {written : List (String × Bytes)} (member : (key, m.content) ∈ written) :
    GoesOut limit written m (pointer m key) where
  id := rfl
  received := rfl
  origin := rfl
  others name other := by
    have content : contentHeader ≠ name := fun same => other (same ▸ List.mem_cons_self)
    have length : lengthHeader ≠ name := fun same => other (same ▸ List.mem_cons_of_mem _ List.mem_cons_self)
    simp only [pointer, Message.withProperty, Table.get?_put, if_neg content, if_neg length]
  headers := iff_of_true (Or.inr ⟨key, pointer_names m key, rfl, member⟩) fun stray => large stray.small
  stray stray := absurd stray.small large

end Sender

/-- A map after blobs have been written to it, in order. -/
def putBlobs (map : String → Option Bytes) (blobs : List (String × Bytes)) : String → Option Bytes :=
  blobs.foldl (fun map blob => Function.update map blob.1 (some blob.2)) map

/-- What packing messages does: blobs are written, under keys that are drawn for them, and nothing is published. -/
structure Packs (b : Blobs σ) (start later : Scope (Overseen σ)) : Prop where
  given : later.inner.given = start.inner.given
  keys : start.keys.Grows later.keys
  blobs : ∃ blobs, later.inner.written = start.inner.written ++ blobs ∧
    (blobs.map Prod.fst).Sublist (start.keys.since later.keys) ∧
    ∀ {held : σ → String → Option Bytes} {faultless : σ → Prop}, b.Lawful held faultless →
      held later.inner.now = putBlobs (held start.inner.now) blobs

namespace Packs

variable {b : Blobs σ} {start middle later : Scope (Overseen σ)}

theorem refl (start : Scope (Overseen σ)) : Packs b start start :=
  ⟨rfl, .refl _, [], (List.append_nil _).symm, List.nil_sublist _, fun _ => rfl⟩

theorem trans (first : Packs b start middle) (second : Packs b middle later) : Packs b start later := by
  obtain ⟨before, written, drawn, held⟩ := first.blobs
  obtain ⟨after, written', drawn', held'⟩ := second.blobs
  refine ⟨second.given.trans first.given, first.keys.trans second.keys, before ++ after, ?_, ?_, fun lawful => ?_⟩
  · rw [written', written, List.append_assoc]
  · rw [List.map_append, Supply.since_append first.keys second.keys]
    exact drawn.append drawn'
  · rw [held' lawful, held lawful, putBlobs, putBlobs, putBlobs, List.foldl_append]

theorem written_subset (packs : Packs b start later) : start.inner.written ⊆ later.inner.written := by
  obtain ⟨blobs, written, -⟩ := packs.blobs
  rw [written]
  exact List.subset_append_left _ _

end Packs

/-- Of blobs with different keys each is there after all have been written. -/
theorem putBlobs_of_mem {blobs : List (String × Bytes)} (distinct : (blobs.map Prod.fst).Nodup)
    {blob : String × Bytes} (member : blob ∈ blobs) (map : String → Option Bytes) :
    putBlobs map blobs blob.1 = some blob.2 := by
  have away {rest : List (String × Bytes)} {key : String} (absent : key ∉ rest.map Prod.fst)
      (map : String → Option Bytes) : putBlobs map rest key = map key := by
    induction rest generalizing map with
    | nil => rfl
    | cons other rest ih =>
      rw [List.map_cons, List.mem_cons, not_or] at absent
      exact (ih absent.2 _).trans (Function.update_of_ne absent.1 _ _)
  induction blobs generalizing map with
  | nil => cases member
  | cons other rest ih =>
    rw [List.map_cons, List.nodup_cons] at distinct
    rcases List.mem_cons.mp member with rfl | later
    · exact (away distinct.1 _).trans (Function.update_self ..)
    · exact ih distinct.2 later _

namespace Sender

variable (sender : Sender σ)

/-- The state after a write that is seen. -/
def writes (sender : Sender σ) (key : String) (data : Bytes) (s : Overseen σ) : Overseen σ :=
  (sender.overseen.blobs.write key (.bytes data) s).2

theorem pack_large_overseen {m : Message} (large : ¬ m.content.length ≤ sender.limit)
    (scope : Scope (Overseen σ)) :
    ∃ result log, sender.overseen.pack m scope =
        (result, ⟨sender.writes scope.keys.next m.content scope.inner, scope.keys.advance, log⟩) ∧
      ∀ p, result = .ok (.ok p) → p.1 = pointer m scope.keys.next ∧
        (sender.blobs.write scope.keys.next (.bytes m.content) scope.inner.now).1 = .ok (.ok ()) := by
  have limit : sender.overseen.limit = sender.limit := rfl
  have written : Scope.within (sender.overseen.blobs.write scope.keys.next (.bytes m.content))
      { scope with keys := scope.keys.advance } =
      ((sender.blobs.write scope.keys.next (.bytes m.content) scope.inner.now).1,
        ⟨sender.writes scope.keys.next m.content scope.inner, scope.keys.advance, scope.log⟩) := rfl
  have drawn : Scope.drawKey scope = (.ok scope.keys.next, { scope with keys := scope.keys.advance }) := rfl
  simp only [pack, limit, if_neg large]
  rw [Action.bind_of_ok drawn]
  rcases answer : (sender.blobs.write scope.keys.next (.bytes m.content) scope.inner.now).1 with
    fault | e | done <;> rw [answer] at written
  · refine ⟨_, _, Action.bind_of_error written, ?_⟩
    rintro p ⟨⟩
  · refine ⟨_, _, Action.bind_of_ok written, ?_⟩
    rintro p ⟨⟩
  · refine ⟨_, _, Action.bind_of_ok written, ?_⟩
    rintro p ⟨⟩
    exact ⟨rfl, rfl⟩

/-- A write is seen if it succeeds, and a store in order then has the blob. -/
theorem packs_write (key : String) (data : Bytes) (scope : Scope (Overseen σ)) (drawn : key = scope.keys.next)
    (log : List Log.Entry) :
    Packs sender.blobs scope ⟨sender.writes key data scope.inner, scope.keys.advance, log⟩ := by
  have since : scope.keys.since scope.keys.advance = [key] := by
    rw [Supply.since_advance (.refl _), Supply.since_self, List.nil_append, drawn]
  refine ⟨rfl, scope.keys.grows_advance,
    Overseen.noted key (.bytes data) (sender.blobs.write key (.bytes data) scope.inner.now).1, rfl, ?_, ?_⟩
  · rw [since]
    rcases (sender.blobs.write key (.bytes data) scope.inner.now).1 with fault | e | done
    · exact List.nil_sublist _
    · exact List.nil_sublist _
    · exact List.Sublist.refl _
  · intro held faultless lawful
    change held (sender.blobs.write key (.bytes data) scope.inner.now).2 = _
    obtain ⟨result, t, run, ⟨rfl, kept, -⟩ | ⟨⟨e, rfl⟩, same, -⟩⟩ := lawful.write key data scope.inner.now
    · rw [run]
      exact kept
    · rw [run]
      exact same

theorem pack_overseen (m : Message) (scope : Scope (Overseen σ)) :
    Packs sender.blobs scope (sender.overseen.pack m scope).2 ∧
      ∀ p, (sender.overseen.pack m scope).1 = .ok (.ok p) →
        GoesOut sender.limit (sender.overseen.pack m scope).2.inner.written m p.1 := by
  by_cases small : m.content.length ≤ sender.limit
  · rw [sender.overseen.pack_small small scope]
    refine ⟨.refl scope, ?_⟩
    rintro p ⟨⟩
    exact goesOut_whole small _
  · obtain ⟨result, log, run, packed⟩ := sender.pack_large_overseen small scope
    rw [run]
    refine ⟨sender.packs_write _ _ scope rfl log, fun p done => ?_⟩
    obtain ⟨out, written⟩ := packed p done
    have noted : (sender.writes scope.keys.next m.content scope.inner).written =
        scope.inner.written ++ [(scope.keys.next, m.content)] := by
      change scope.inner.written ++ Overseen.noted scope.keys.next (.bytes m.content) _ = _
      rw [written]
      rfl
    rw [out]
    exact goesOut_pointer small (noted ▸ List.mem_append_right _ List.mem_cons_self)

/-- Each message of a batch is packed, whatever becomes of those before it. -/
theorem runAll_overseen (messages : List Message) (scope : Scope (Overseen σ)) :
    ∃ results later, Action.runAll (messages.map sender.overseen.pack) scope = (results, later) ∧
      Packs sender.blobs scope later ∧
      List.Forall₂ (fun m result => ∀ p, result = .ok (.ok p) → GoesOut sender.limit later.inner.written m p.1)
        messages results := by
  induction messages generalizing scope with
  | nil => exact ⟨[], scope, rfl, .refl scope, .nil⟩
  | cons m rest ih =>
    obtain ⟨packs, goes⟩ := sender.pack_overseen m scope
    rcases run : sender.overseen.pack m scope with ⟨result, middle⟩
    rw [run] at packs goes
    obtain ⟨results, later, runs, more, others⟩ := ih middle
    refine ⟨result :: results, later, ?_, packs.trans more, .cons (fun p done => ?_) others⟩
    · rw [List.map_cons, Action.runAll_cons run, runs]
    · exact (goes p done).mono more.written_subset

/-- Giving blobs up is seen neither as a write nor as a batch. -/
theorem discard_overseen (keys : List String) (scope : Scope (Overseen σ)) :
    (sender.overseen.discard keys scope).2.inner.written = scope.inner.written ∧
      (sender.overseen.discard keys scope).2.inner.given = scope.inner.given ∧
      (sender.overseen.discard keys scope).2.keys = scope.keys := by
  unfold discard
  by_cases none_given : keys.isEmpty
  · rw [if_pos none_given]
    exact ⟨rfl, rfl, rfl⟩
  rw [if_neg none_given]
  cases left : sender.overseen.cleanUp with
  | false => exact ⟨rfl, rfl, rfl⟩
  | true =>
    have deleted : Scope.within (sender.overseen.blobs.delete keys) scope =
        ((sender.blobs.delete keys scope.inner.now).1,
          { scope with inner := { scope.inner with now := (sender.blobs.delete keys scope.inner.now).2 } }) := rfl
    simp only [Bool.not_true, Bool.false_eq_true, if_false]
    rcases answer : (sender.blobs.delete keys scope.inner.now).1 with fault | e | done <;> rw [answer] at deleted
    · rw [Action.bind_of_error deleted]
      exact ⟨rfl, rfl, rfl⟩
    · rw [Action.bind_of_ok deleted]
      exact ⟨rfl, rfl, rfl⟩
    · rw [Action.bind_of_ok deleted]
      exact ⟨rfl, rfl, rfl⟩

/-- What the publisher has been given by the end of a call for some messages: nothing, or once a message for each of
them. If the keys drawn are distinct, all blobs written in the call are then in the store. -/
def Dispatched (messages : List Message) (start : Scope σ) (later : Scope (Overseen σ)) : Prop :=
  later.inner.given = [] ∨ ∃ out now, later.inner.given = [(out, now)] ∧
    List.Forall₂ (GoesOut sender.limit later.inner.written) messages out ∧
    ∀ {held : σ → String → Option Bytes} {faultless : σ → Prop}, sender.blobs.Lawful held faultless →
      (start.keys.since later.keys).Nodup → ∀ blob ∈ later.inner.written, held now blob.1 = some blob.2

variable {sender} {messages out : List Message} {start : Scope σ} {packed : Scope (Overseen σ)}

theorem dispatched_of_packs (packs : Packs sender.blobs start.overseen packed) :
    sender.Dispatched messages start packed := Or.inl packs.given

/-- What is packed goes to the publisher at once. -/
theorem dispatched_of_publish (packs : Packs sender.blobs start.overseen packed)
    (goes : List.Forall₂ (GoesOut sender.limit packed.inner.written) messages out) (keys : List String)
    (act : Action (Overseen σ) (Outcome Unit)) {result : Attempt (Outcome Unit)} {t : σ}
    (acts : act packed.inner = (result,
      { packed.inner with now := t, given := packed.inner.given ++ [(out, packed.inner.now)] })) :
    sender.Dispatched messages start (sender.overseen.publish keys act packed).2 := by
  let sent : Scope (Overseen σ) := { packed with inner :=
    { packed.inner with now := t, given := packed.inner.given ++ [(out, packed.inner.now)] } }
  have answered : Scope.within act packed = (result, sent) := Action.zoom_apply acts
  obtain ⟨written, given, keys⟩ : (sender.overseen.publish keys act packed).2.inner.written = packed.inner.written ∧
      (sender.overseen.publish keys act packed).2.inner.given = packed.inner.given ++ [(out, packed.inner.now)] ∧
      (sender.overseen.publish keys act packed).2.keys = packed.keys := by
    rcases result with fault | e | done
    · rw [publish, Action.bind_of_error answered]
      exact ⟨rfl, rfl, rfl⟩
    · have run : (sender.overseen.publish keys act packed).2 = (sender.overseen.discard keys sent).2 :=
        (congrArg Prod.snd (Action.bind_of_ok answered)).trans (Action.bind_pure_snd ..)
      rw [run]
      exact sender.discard_overseen keys sent
    · rw [publish, Action.bind_of_ok answered]
      exact ⟨rfl, rfl, rfl⟩
  have nothing : packed.inner.given = [] := packs.given
  refine Or.inr ⟨out, packed.inner.now, by rw [given, nothing, List.nil_append], written ▸ goes, ?_⟩
  intro held faultless lawful distinct blob member
  obtain ⟨blobs, added, drawn, stored⟩ := packs.blobs
  have all : packed.inner.written = blobs := added
  rw [written, all] at member
  rw [keys] at distinct
  rw [stored lawful]
  exact putBlobs_of_mem (distinct.sublist drawn) member _

theorem dispatched_put (m : Message) : sender.Dispatched [m] start (sender.overseen.put m start.overseen).2 := by
  obtain ⟨packs, goes⟩ := sender.pack_overseen m start.overseen
  rcases run : sender.overseen.pack m start.overseen with ⟨fault | e | p, packed⟩ <;> rw [run] at packs goes
  · rw [put, Action.onSuccess_of_fault run]
    exact dispatched_of_packs packs
  · rw [put, Action.onSuccess_of_error run]
    exact dispatched_of_packs packs
  · rw [put, Action.onSuccess_of_ok run]
    exact dispatched_of_publish packs (.cons (goes p rfl) .nil) _ _ rfl

theorem dispatched_putAll (messages : List Message) :
    sender.Dispatched messages start (sender.overseen.putAll messages start.overseen).2 := by
  unfold putAll
  split
  · exact Or.inl rfl
  obtain ⟨results, packed, runs, packs, goes⟩ := sender.runAll_overseen messages start.overseen
  have gathered : Action.gather (messages.map sender.overseen.pack) start.overseen = (results.mapM id, packed) := by
    rw [Action.gather_apply, runs]
  cases all : results.mapM id with
  | error fault =>
    rw [all] at gathered
    rw [Action.bind_of_error gathered]
    exact dispatched_of_packs packs
  | ok outcomes =>
    rw [all] at gathered
    rw [Action.bind_of_ok gathered]
    rw [Outcome.mapM_id_eq_ok_iff.mp all, List.forall₂_map_right_iff] at goes
    cases every : outcomes.mapM id with
    | error e =>
      let keys := outcomes.filterMap fun p => p.toOption.bind Prod.snd
      have after := Action.bind_pure_snd (sender.overseen.discard keys) (fun _ => (.error e : Outcome Unit)) packed
      have given := (sender.discard_overseen keys packed).2.1
      exact Or.inl ((congrArg (fun s : Scope (Overseen σ) => s.inner.given) after).trans (given.trans packs.given))
    | ok ps =>
      rw [Outcome.mapM_id_eq_ok_iff.mp every, List.forall₂_map_right_iff] at goes
      refine dispatched_of_publish packs (List.forall₂_map_right_iff.mpr ?_) _ _ rfl
      exact goes.imp fun m p known => known p rfl

/-- Whatever messages a sender is asked to publish, one or a batch, over any publisher, any store and any supply of
keys: the publisher beneath is given a message for each of them, or nothing. Each has the reserved properties both
or not at all, where the key is that of a blob written in the same call with the content, except for those that
stay whole and have a length and no key, which are given as they are. The rest of each message is as it was. To
oversee this changes nothing in what the sender does. -/
theorem headers_all_or_nothing (sender : Sender σ) (scope : Scope σ) :
    (∀ m, sender.Dispatched [m] scope (sender.overseen.put m scope.overseen).2) ∧
      (∀ messages, sender.Dispatched messages scope (sender.overseen.putAll messages scope.overseen).2) ∧
      (∀ m, Action.Agree Sees (sender.overseen.put m) (sender.put m)) ∧
      ∀ messages, Action.Agree Sees (sender.overseen.putAll messages) (sender.putAll messages) :=
  ⟨dispatched_put, dispatched_putAll, sender.agree_put, sender.agree_putAll⟩

def labelled : Message := { content := [97, 98, 99], properties := .ofList [(lengthHeader, "7")] }

/-- The publisher is given one of the two properties. -/
theorem stray_length_given :
    let sender := senderOn Messenger.memory Blobs.memory "jobs" 5 true
    let later := (sender.overseen.put labelled { inner := ({}, {}), keys := .keysIn "message" : Scope _ }.overseen).2
    later.inner.given.map Prod.fst = [[labelled]] ∧ ¬ AllOrNone later.inner.written labelled labelled :=
  ⟨rfl, not_allOrNone_of_stray (show Stray 5 labelled from ⟨by decide, by decide, by decide⟩)⟩

end Sender
end Offload
end Depot
