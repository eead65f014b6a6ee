import Depot.Proofs.Offload.Session

namespace Depot.Offload

open Messenger (Memory)
open Messenger.Memory (blind unnamed Filed)

variable {τ : Type}

/-- The names drawn between two moments, the identifiers and the keys, are pairwise distinct. -/
structure DrawsDistinct (start now : Scope (Memory × τ)) : Prop where
  ids : (start.inner.1.ids.since now.inner.1.ids).Nodup
  keys : (start.keys.since now.keys).Nodup

/-- The books of a channel between two moments. -/
def booksOf (channel : String) (held : τ → String → Option Bytes) (faultless : τ → Prop)
    (start now : Scope (Memory × τ)) (sent loose delivered : List Message) : Books where
  ids := start.inner.1.ids.since now.inner.1.ids
  keys := start.keys.since now.keys
  before := held start.inner.2
  blobs := held now.inner.2
  faultless := faultless now.inner.2
  sent
  kept := (now.inner.1.holding channel).map blind
  loose
  delivered

/-- The invariant of a session. That the books are balanced needs names drawn without repetition; the rest
holds of any supplies, so that an earlier moment has distinct names when a later one does. -/
structure InOrder (site : Site τ) (held : τ → String → Option Bytes) (faultless : τ → Prop)
    (start now : Scope (Memory × τ)) (loose delivered : List Message) : Prop where
  ids : start.inner.1.ids.Grows now.inner.1.ids
  keys : start.keys.Grows now.keys
  filed : now.inner.1.Filed
  bare : ∀ d ∈ delivered, blobKey? d = none
  others : ∀ other, site.channel ≠ other → ∀ m ∈ now.inner.1.holding other, blobKey? m = none
  unsent : ∀ m ∈ loose, m.id = none
  balanced : DrawsDistinct start now →
    ∃ sent, (booksOf site.channel held faultless start now sent loose delivered).Balanced

theorem DrawsDistinct.earlier {start now later : Scope (Memory × τ)} (distinct : DrawsDistinct start later)
    (ids : start.inner.1.ids.Grows now.inner.1.ids) (keys : start.keys.Grows now.keys)
    (ids_later : now.inner.1.ids.Grows later.inner.1.ids) (keys_later : now.keys.Grows later.keys) :
    DrawsDistinct start now where
  ids := distinct.ids.sublist (Supply.since_prefix ids ids_later).sublist
  keys := distinct.keys.sublist (Supply.since_prefix keys keys_later).sublist

variable {site : Site τ} {held : τ → String → Option Bytes} {faultless : τ → Prop}
  {start now : Scope (Memory × τ)} {loose delivered : List Message}

theorem Site.Opening.inOrder {s : Session τ} (opening : site.Opening s) :
    InOrder site held faultless s.scope s.scope [] s.delivered where
  ids := .refl _
  keys := .refl _
  filed := opening.filed
  bare d member := by
    rw [opening.delivered] at member
    cases member
  others other _ := opening.bare other
  unsent m member := by cases member
  balanced _ := by
    have nothing : (s.scope.inner.1.holding site.channel).map blind = [] :=
      congrArg (List.map blind) opening.empty
    refine ⟨[], ⟨?_, List.nil_sublist _, ?_, ?_, ?_, ?_, fun _ _ => rfl, ?_⟩⟩
    · simp [booksOf, Supply.since_self]
    · simp [booksOf, nothing]
    · simp [booksOf, nothing]
    · simp [booksOf]
    · simp [booksOf, opening.delivered]
    · simp [booksOf, Supply.since_self]

/-- A message that goes out has no identifier yet, and the key beside it is that of its blob. -/
def Packed (p : Message × Option String) : Prop := p.1.id = none ∧ p.2 = blobKey? p.1

theorem Sender.id_whole (m : Message) : (Sender.whole m).id = m.id := by
  unfold Sender.whole
  split <;> rfl

theorem Sender.origin_whole (m : Message) : (Sender.whole m).origin = m.origin := by
  unfold Sender.whole
  split <;> rfl

/-- Once a key has been drawn, it is the last of the keys, and the earlier moment had distinct names. -/
theorem InOrder.key_drawn (order : InOrder site held faultless start now loose delivered)
    {later : Scope (Memory × τ)} (messenger : later.inner.1 = now.inner.1)
    (keys : later.keys = now.keys.advance) :
    now.keys.Grows later.keys ∧ start.keys.since later.keys = start.keys.since now.keys ++ [now.keys.next] ∧
      (DrawsDistinct start later → DrawsDistinct start now) := by
  have growth : now.keys.Grows later.keys := keys ▸ now.keys.grows_advance
  refine ⟨growth, ?_, fun distinct => distinct.earlier order.ids order.keys (messenger ▸ .refl _) growth⟩
  rw [keys, Supply.since_advance order.keys]

theorem InOrder.pack (order : InOrder site held faultless start now loose delivered)
    (lawful : site.blobs.Lawful held faultless) {m : Message} (new : New m) :
    ∃ outcome later, site.sender.pack m now = (.ok outcome, later) ∧
      (faultless later.inner.2 → faultless now.inner.2) ∧
      ((∃ p, outcome = .ok p ∧ Packed p ∧ InOrder site held faultless start later (loose ++ [p.1]) delivered) ∨
        ((∃ e, outcome = .error e) ∧ ¬ faultless later.inner.2 ∧
          InOrder site held faultless start later loose delivered)) := by
  have unsent {out : Message} (given : out.id = none) : ∀ m ∈ loose ++ [out], m.id = none := by
    intro m member
    rcases List.mem_append.mp member with old | last
    · exact order.unsent m old
    · exact List.mem_singleton.mp last ▸ given
  rcases Sender.pack_cases lawful site.sender rfl m now with
    ⟨-, run⟩ | ⟨-, later, run, messenger, keys, blobs, faults⟩ |
      ⟨-, e, later, run, messenger, keys, blobs, failed⟩
  · have inline := Sender.blobKey?_whole m
    have packed : Packed (Sender.whole m, none) := ⟨(Sender.id_whole m).trans new.1, inline.symm⟩
    refine ⟨_, now, run, id, Or.inl ⟨_, rfl, packed, ?_⟩⟩
    refine { order with unsent := unsent packed.1, balanced := fun distinct => ?_ }
    obtain ⟨sent, balanced⟩ := order.balanced distinct
    exact ⟨sent, balanced.pack_whole inline ((Sender.origin_whole m).trans new.2)⟩
  · have pointer := Sender.pointer_names m now.keys.next
    have packed : Packed (Sender.pointer m now.keys.next, some now.keys.next) := ⟨new.1, pointer.key.symm⟩
    obtain ⟨growth, drawn, earlier⟩ := order.key_drawn messenger keys
    refine ⟨_, later, run, faults, Or.inl ⟨_, rfl, packed, ?_⟩⟩
    refine ⟨messenger ▸ order.ids, order.keys.trans growth, messenger ▸ order.filed, order.bare,
      messenger ▸ order.others, unsent packed.1, fun distinct => ?_⟩
    obtain ⟨sent, balanced⟩ := order.balanced (earlier distinct)
    have fresh : now.keys.next ∉ start.keys.since now.keys := by
      have once := drawn ▸ distinct.keys
      exact fun used => (List.nodup_append.mp once).2.2 _ used _ List.mem_cons_self rfl
    refine ⟨sent, ?_⟩
    rw [booksOf, drawn, messenger, blobs]
    exact balanced.pack_pointer pointer new.2 fresh faults
  · obtain ⟨growth, drawn, earlier⟩ := order.key_drawn messenger keys
    refine ⟨_, later, run, fun still => absurd still failed, Or.inr ⟨⟨_, rfl⟩, failed, ?_⟩⟩
    refine ⟨messenger ▸ order.ids, order.keys.trans growth, messenger ▸ order.filed, order.bare,
      messenger ▸ order.others, order.unsent, fun distinct => ?_⟩
    obtain ⟨sent, balanced⟩ := order.balanced (earlier distinct)
    refine ⟨sent, ?_⟩
    rw [booksOf, drawn, messenger, blobs]
    exact balanced.pack_failed now.keys.next failed

/-- As long as the store is without faults every message of a batch is packed. -/
theorem InOrder.pack_all (order : InOrder site held faultless start now loose delivered)
    (lawful : site.blobs.Lawful held faultless) {messages : List Message} (new : ∀ m ∈ messages, New m) :
    ∃ (outcomes : List (Outcome (Message × Option String))) (later : Scope (Memory × τ)),
      Action.runAll (messages.map site.sender.pack) now = (outcomes.map .ok, later) ∧
      (faultless later.inner.2 → faultless now.inner.2) ∧
      (∀ p, .ok p ∈ outcomes → Packed p) ∧
      ((∃ e, .error e ∈ outcomes) → ¬ faultless later.inner.2) ∧
      InOrder site held faultless start later
        (loose ++ (outcomes.filterMap Except.toOption).map Prod.fst) delivered := by
  -- Each message moves on to a later scope, in which it is loose if it was packed.
  induction messages generalizing now loose with
  | nil =>
    refine ⟨[], now, rfl, id, fun p member => absurd member List.not_mem_nil,
      fun ⟨e, member⟩ => absurd member List.not_mem_nil, ?_⟩
    rw [List.filterMap_nil, List.map_nil, List.append_nil]
    exact order
  | cons m rest ih =>
    obtain ⟨atHead, inTail⟩ := List.forall_mem_cons.mp new
    obtain ⟨outcome, middle, run, faults, ⟨p, rfl, packed, next⟩ | ⟨⟨e, rfl⟩, failed, next⟩⟩ :=
      order.pack lawful atHead
    · obtain ⟨outcomes, later, runs, more, goes, stops, last⟩ := ih next inTail
      refine ⟨.ok p :: outcomes, later, ?_, faults ∘ more, ?_, ?_, ?_⟩
      · rw [List.map_cons, Action.runAll_cons run, runs, List.map_cons]
      · intro q member
        rcases List.mem_cons.mp member with same | member
        · cases same
          exact packed
        · exact goes q member
      · rintro ⟨e, member⟩
        rcases List.mem_cons.mp member with same | member
        · cases same
        · exact stops ⟨e, member⟩
      · rw [List.append_assoc] at last
        exact last
    · obtain ⟨outcomes, later, runs, more, goes, -, last⟩ := ih next inTail
      refine ⟨.error e :: outcomes, later, ?_, faults ∘ more, ?_, fun _ still => failed (more still), last⟩
      · rw [List.map_cons, Action.runAll_cons run, runs, List.map_cons]
      · intro q member
        rcases List.mem_cons.mp member with same | member
        · cases same
        · exact goes q member

theorem InOrder.send (order : InOrder site held faultless start now loose delivered) :
    InOrder site held faultless start (now.withMessenger (now.inner.1.send site.channel loose)) []
      delivered := by
  have ids_later := Memory.ids_grow_send site.channel loose now.inner.1
  refine ⟨order.ids.trans ids_later, order.keys, Memory.filed_send order.filed _ _, order.bare, ?_,
    fun m member => absurd member List.not_mem_nil, fun distinct => ?_⟩
  · intro other different m member
    exact order.others other different m (Memory.holding_send_of_ne different loose _ ▸ member)
  · obtain ⟨sent, balanced⟩ := order.balanced (distinct.earlier order.ids order.keys ids_later (.refl _))
    have given : ((Messenger.stampAll now.inner.1.ids loose).1.map blind).map Message.id =
        (now.inner.1.ids.since (now.inner.1.send site.channel loose).ids).map some := by
      rw [List.map_map]
      exact Messenger.ids_stampAll now.inner.1.ids order.unsent
    have drawn : start.inner.1.ids.since (now.inner.1.send site.channel loose).ids =
        start.inner.1.ids.since now.inner.1.ids ++
          now.inner.1.ids.since (now.inner.1.send site.channel loose).ids :=
      Supply.since_append order.ids ids_later
    have through {α : Type} {f : Message → α} (plain : ∀ m, f (blind m) = f m)
        (unaware : ∀ (m : Message) id, f { m with id } = f m) :
        ((Messenger.stampAll now.inner.1.ids loose).1.map blind).map f = loose.map f := by
      rw [List.map_map, ← Messenger.map_stampAll unaware now.inner.1.ids loose]
      exact List.map_congr_left fun m _ => plain m
    have added := (Memory.holding_send site.channel loose now.inner.1).map blind
    rw [List.map_append] at added
    have after := balanced.send given (through (fun _ => rfl) fun _ _ => rfl)
      (through (fun _ => rfl) fun _ _ => rfl) added
    refine ⟨sent ++ (Messenger.stampAll now.inner.1.ids loose).1.map blind, ?_⟩
    simp only [booksOf, Scope.withMessenger, drawn]
    exact after

/-- After a failure of the store, what was packed is given up. -/
theorem InOrder.give_up (order : InOrder site held faultless start now loose delivered)
    (lawful : site.blobs.Lawful held faultless) (failed : ¬ faultless now.inner.2) :
    ∃ later, site.sender.discard (loose.filterMap blobKey?) now = (.ok (), later) ∧
      InOrder site held faultless start later [] delivered := by
  obtain ⟨later, run, messenger, keys, faults, effect⟩ :=
    Sender.discard_cases lawful site.sender rfl (loose.filterMap blobKey?) now
  refine ⟨later, run, messenger ▸ order.ids, keys ▸ order.keys, messenger ▸ order.filed, order.bare,
    messenger ▸ order.others, fun m member => absurd member List.not_mem_nil, fun distinct => ?_⟩
  have earlier : DrawsDistinct start now := ⟨messenger ▸ distinct.ids, keys ▸ distinct.keys⟩
  obtain ⟨sent, balanced⟩ := order.balanced earlier
  refine ⟨sent, ?_⟩
  rw [booksOf, messenger, keys]
  exact balanced.give_up earlier.keys (fun still => failed (faults still)) (effect.imp And.right And.right)

theorem Site.publish_apply (site : Site τ) (keys : List String) (messages : List Message)
    (scope : Scope (Memory × τ)) :
    site.sender.publish keys (site.sender.publisher.putAll messages) scope =
      (.ok (.ok ()), scope.withMessenger (scope.inner.1.send site.channel messages)) := by
  have sent : Scope.within (site.sender.publisher.putAll messages) scope =
      (.ok (.ok ()), scope.withMessenger (scope.inner.1.send site.channel messages)) := by
    exact Scope.within_messenger rfl
  exact Action.bind_of_ok sent

theorem InOrder.put (order : InOrder site held faultless start now [] delivered)
    (lawful : site.blobs.Lawful held faultless) {m : Message} (new : New m) :
    InOrder site held faultless start (site.sender.put m now).2 [] delivered := by
  obtain ⟨outcome, middle, run, -, ⟨p, rfl, -, next⟩ | ⟨⟨e, rfl⟩, -, next⟩⟩ := order.pack lawful new
  · have published : site.sender.put m now =
        (.ok (.ok ()), middle.withMessenger (middle.inner.1.send site.channel [p.1])) :=
      (Action.onSuccess_of_ok run).trans (site.publish_apply p.2.toList [p.1] middle)
    rw [published]
    exact next.send
  · have stopped : site.sender.put m now = (.ok (.error e), middle) := Action.onSuccess_of_error run
    rw [stopped]
    exact next

/-- The keys of the blobs written for a batch are those that its packed messages name. -/
theorem keys_of_packed {outcomes : List (Outcome (Message × Option String))}
    (packed : ∀ p, .ok p ∈ outcomes → Packed p) :
    (outcomes.filterMap fun o => o.toOption.bind Prod.snd) =
      ((outcomes.filterMap Except.toOption).map Prod.fst).filterMap blobKey? := by
  rw [List.filterMap_map, List.filterMap_filterMap]
  refine List.filterMap_congr fun o member => ?_
  cases o with
  | error e => rfl
  | ok p => exact (packed p member).2

theorem InOrder.put_all (order : InOrder site held faultless start now [] delivered)
    (lawful : site.blobs.Lawful held faultless) {messages : List Message} (new : ∀ m ∈ messages, New m) :
    InOrder site held faultless start (site.sender.putAll messages now).2 [] delivered := by
  unfold Sender.putAll
  by_cases nothing : messages.isEmpty
  · rw [if_pos nothing]
    exact order
  rw [if_neg nothing]
  obtain ⟨outcomes, middle, runs, -, packed, failed, next⟩ := order.pack_all lawful new
  have gathered : Action.gather (messages.map site.sender.pack) now = (.ok outcomes, middle) := by
    rw [Action.gather_apply, runs, Outcome.mapM_id_eq_ok_iff.mpr rfl]
  rw [Action.bind_of_ok gathered, keys_of_packed packed]
  rw [List.nil_append] at next
  cases all : outcomes.mapM id with
  | error e =>
    obtain ⟨later, run, last⟩ := next.give_up lawful (failed ⟨e, Outcome.mem_of_mapM_id_eq_error all⟩)
    simp only [Action.bind_of_ok run]
    exact last
  | ok outgoing =>
    have sent : outcomes.filterMap Except.toOption = outgoing := by
      rw [Outcome.mapM_id_eq_ok_iff.mp all, Outcome.filterMap_toOption_map_ok]
    rw [sent] at next ⊢
    simp only [site.publish_apply]
    exact next.send

/-- Messages that were handed over were made of those received. -/
theorem exists_of_mem_outcomes {map : String → Option Bytes} {messages : List Message}
    {outcomes : List (Outcome Message)}
    (made : List.Forall₂ (fun m outcome => ∀ d, outcome = .ok d → Restorer.IsRestored map m d)
      messages outcomes)
    {d : Message} (member : d ∈ outcomes.filterMap Except.toOption) :
    ∃ m ∈ messages, Restorer.IsRestored map m d := by
  induction made with
  | nil => cases member
  | @cons m outcome messages outcomes known _ ih =>
    cases outcome with
    | error e =>
      obtain ⟨m', among, restored⟩ := ih member
      exact ⟨m', List.mem_cons_of_mem _ among, restored⟩
    | ok d' =>
      rcases List.mem_cons.mp member with rfl | later
      · exact ⟨m, List.mem_cons_self, known d rfl⟩
      · obtain ⟨m', among, restored⟩ := ih later
        exact ⟨m', List.mem_cons_of_mem _ among, restored⟩

theorem InOrder.deliver (order : InOrder site held faultless start now [] delivered) {count : Nat}
    {flight : Table (Option String) Message} (found : now.inner.1.inFlight.get? site.channel = some flight)
    {later : Scope (Memory × τ)}
    (unchanged : Restorer.Unchanged held faultless
      (now.withMessenger (now.inner.1.taken site.channel count flight)) later) {new : List Message}
    (made : ∀ d ∈ new, ∃ m ∈ ((now.inner.1.queue site.channel).take count).map Message.receive,
      Restorer.IsRestored (held now.inner.2) m d) :
    InOrder site held faultless start later [] (delivered ++ new) := by
  have messenger : later.inner.1 = now.inner.1.taken site.channel count flight := unchanged.messenger
  have keys : later.keys = now.keys := unchanged.keys
  have ids : later.inner.1.ids = now.inner.1.ids := messenger ▸ rfl
  refine ⟨ids ▸ order.ids, keys ▸ order.keys, messenger ▸ Memory.filed_taken order.filed found count, ?_, ?_,
    order.unsent, fun distinct => ?_⟩
  · intro d member
    rcases List.mem_append.mp member with old | fresh
    · exact order.bare d old
    · obtain ⟨m, -, restored⟩ := made d fresh
      exact restored.blobKey?
  · intro other different m member
    rw [messenger, Memory.holding_taken_of_ne different] at member
    exact order.others other different m member
  · have earlier : DrawsDistinct start now := ⟨ids ▸ distinct.ids, keys ▸ distinct.keys⟩
    obtain ⟨sent, balanced⟩ := order.balanced earlier
    have kept : ∀ d ∈ new, ∃ m, blind m ∈ (now.inner.1.holding site.channel).map blind ∧
        Restorer.IsRestored (held now.inner.2) m d := by
      intro d member
      obtain ⟨m, among, restored⟩ := made d member
      obtain ⟨waiting, first, rfl⟩ := List.mem_map.mp among
      refine ⟨waiting.receive, List.mem_map.mpr ⟨waiting, ?_, rfl⟩, restored⟩
      exact List.mem_append_left _ (List.mem_of_mem_take first)
    -- Messages in flight are filed by identifier: were two the same, one would be lost.
    have once : ((now.inner.1.holding site.channel).map Message.id).Nodup := by
      have same := balanced.ids_kept_nodup earlier.ids
      rw [booksOf, List.map_map] at same
      exact same
    have moved := Memory.holding_taken order.filed found once count
    refine ⟨sent, ?_⟩
    rw [booksOf, ids, keys, unchanged.blobs, messenger]
    exact (balanced.deliver kept unchanged.faults).move moved

theorem InOrder.receive (order : InOrder site held faultless start now [] delivered)
    (lawful : site.blobs.Lawful held faultless) (limit : Int) :
    InOrder site held faultless start (site.restorer.receive limit now).2 []
      (delivered ++ handedOver (site.restorer.receive limit now).1) := by
  rcases within_receive_cases site.blobs site.channel true now limit with
    ⟨flight, found, taken⟩ | ⟨e, refused⟩ | ⟨fault, broken⟩
  · obtain ⟨result, later, restored, unchanged, made⟩ :=
      Restorer.restoreAll_cases lawful (r := site.restorer) rfl (nextOf site.channel limit now)
        (now.withMessenger (now.inner.1.taken site.channel limit.toNat flight))
    cases result with
    | ok outcomes =>
      have received : site.restorer.receive limit now = (.ok (.ok outcomes), later) :=
        (Action.onSuccess_of_ok taken).trans (Action.bind_of_ok restored)
      rw [received]
      exact order.deliver found unchanged fun d member => exists_of_mem_outcomes (made outcomes rfl) member
    | error fault =>
      have received : site.restorer.receive limit now = (.error fault, later) :=
        (Action.onSuccess_of_ok taken).trans (Action.bind_of_error restored)
      rw [received]
      exact order.deliver found unchanged fun d member => absurd member List.not_mem_nil
  · have stopped : site.restorer.receive limit now = (.ok (.error e), now) := Action.onSuccess_of_error refused
    rw [stopped]
    exact (List.append_nil delivered).symm ▸ order
  · have stopped : site.restorer.receive limit now = (.error fault, now) := Action.onSuccess_of_fault broken
    rw [stopped]
    exact (List.append_nil delivered).symm ▸ order

theorem InOrder.id_of_delivered (order : InOrder site held faultless start now loose delivered)
    (distinct : DrawsDistinct start now) {d : Message} (member : d ∈ delivered) : ∃ id, d.id = some id := by
  obtain ⟨sent, balanced⟩ := order.balanced distinct
  obtain ⟨m, inSent, same, -⟩ := balanced.known d member
  obtain ⟨id, -, given⟩ := List.mem_map.mp (balanced.identified ▸ List.mem_map_of_mem inSent)
  exact ⟨id, same.trans given.symm⟩

theorem InOrder.settle (order : InOrder site held faultless start now [] delivered)
    (lawful : site.blobs.Lawful held faultless) {messages : List Message}
    (known : ∀ d ∈ messages, d ∈ delivered) :
    ∃ later, site.restorer.release messages
        (now.withMessenger (now.inner.1.delete site.channel (messages.filterMap Message.id))) =
          (.ok (), later) ∧
      InOrder site held faultless start later [] delivered := by
  obtain ⟨later, run, messenger, keys, effect⟩ :=
    Restorer.release_cases lawful (r := site.restorer) rfl rfl messages
      (now.withMessenger (now.inner.1.delete site.channel (messages.filterMap Message.id)))
  have queues : later.inner.1 = now.inner.1.delete site.channel (messages.filterMap Message.id) := messenger
  have same_keys : later.keys = now.keys := keys
  have ids : later.inner.1.ids = now.inner.1.ids := queues ▸ rfl
  refine ⟨later, run, ids ▸ order.ids, same_keys ▸ order.keys, queues ▸ Memory.filed_delete order.filed _ _,
    order.bare, ?_, order.unsent, fun distinct => ?_⟩
  · intro other different m member
    rw [queues, Memory.holding_delete_of_ne order.filed different] at member
    exact order.others other different m member
  · have earlier : DrawsDistinct start now := ⟨ids ▸ distinct.ids, same_keys ▸ distinct.keys⟩
    obtain ⟨sent, balanced⟩ := order.balanced earlier
    have left : (later.inner.1.holding site.channel).map blind =
        unnamed (messages.filterMap Message.id) ((now.inner.1.holding site.channel).map blind) := by
      rw [queues, Memory.holding_delete order.filed, unnamed, unnamed, List.filter_map]
      rfl
    refine ⟨sent, ?_⟩
    rw [booksOf, ids, same_keys, left]
    exact balanced.settle earlier.ids earlier.keys rfl known effect

theorem InOrder.confirm (order : InOrder site held faultless start now [] delivered)
    (lawful : site.blobs.Lawful held faultless) {messages : List Message}
    (known : ∀ d ∈ messages, d ∈ delivered) :
    InOrder site held faultless start (site.restorer.confirm messages now).2 [] delivered := by
  obtain ⟨later, run, next⟩ := order.settle lawful known
  have deleted := within_confirm site.blobs site.channel true now messages
  have confirmed : site.restorer.confirm messages now = (.ok (.ok ()), later) :=
    (Action.onSuccess_of_ok deleted).trans (Action.bind_of_ok run)
  rw [confirmed]
  exact next

/-- The reason why a message is set aside says nothing about blobs. -/
theorem blobKey?_marked (m : Message) (reason : String) (description : Option String) :
    blobKey? (Messenger.marked m reason description) = blobKey? m := by
  have reason_apart : Messenger.reasonHeader ≠ contentHeader := by decide
  have error_apart : Messenger.errorHeader ≠ contentHeader := by decide
  cases description <;>
    simp only [blobKey?, Messenger.marked, Message.withProperty, Table.get?_put, if_neg reason_apart,
      if_neg error_apart]

/-- A delivered message is sent on to where messages are set aside. -/
theorem InOrder.set_aside (order : InOrder site held faultless start now [] delivered) {d : Message}
    (known : d ∈ delivered) (reason : String) (description : Option String) :
    InOrder site held faultless start (now.withMessenger (now.inner.1.send
      (Messenger.deadLettersOf site.channel) [Messenger.marked d reason description])) [] delivered := by
  have apart := Messenger.deadLettersOf_ne site.channel
  have ids_later := Memory.ids_grow_send (Messenger.deadLettersOf site.channel)
    [Messenger.marked d reason description] now.inner.1
  refine ⟨order.ids.trans ids_later, order.keys, Memory.filed_send order.filed _ _, order.bare, ?_,
    order.unsent, fun distinct => ?_⟩
  · intro other different m member
    by_cases there : Messenger.deadLettersOf site.channel = other
    · subst there
      rcases List.mem_append.mp ((Memory.holding_send _ _ _).mem_iff.mp member) with old | fresh
      · exact order.others _ different m old
      · have same := Messenger.map_stampAll (f := blobKey?) (fun _ _ => rfl) now.inner.1.ids
          [Messenger.marked d reason description]
        have among := same ▸ List.mem_map_of_mem fresh
        rw [List.map_cons, List.map_nil, List.mem_singleton, blobKey?_marked] at among
        exact among.trans (order.bare d known)
    · rw [Scope.withMessenger, Memory.holding_send_of_ne there] at member
      exact order.others other different m member
  · have earlier := distinct.earlier order.ids order.keys ids_later (.refl _)
    -- The message has its identifier already, so that none is drawn for the second channel.
    obtain ⟨id, given⟩ := order.id_of_delivered earlier known
    obtain ⟨sent, balanced⟩ := order.balanced earlier
    have stamped := Messenger.stampAll_of_id ((Messenger.id_marked d reason description).trans given) now.inner.1.ids
    have ids : (now.inner.1.send (Messenger.deadLettersOf site.channel)
        [Messenger.marked d reason description]).ids = now.inner.1.ids := congrArg Prod.snd stamped
    refine ⟨sent, ?_⟩
    simp only [booksOf, Scope.withMessenger, ids, Memory.holding_send_of_ne apart.symm]
    exact balanced

theorem InOrder.dead_letter (order : InOrder site held faultless start now [] delivered)
    (lawful : site.blobs.Lawful held faultless) {d : Message} (known : d ∈ delivered) (reason : String)
    (description : Option String) :
    InOrder site held faultless start (site.restorer.deadLetter d reason description now).2 [] delivered := by
  have aside := order.set_aside known reason description
  cases given : d.id with
  | none =>
    -- While names are distinct every delivered message has an identifier, and there is nothing to show.
    obtain ⟨later, run, messenger, keys, -⟩ := Restorer.release_cases lawful (r := site.restorer) rfl rfl [d]
      (now.withMessenger (now.inner.1.send (Messenger.deadLettersOf site.channel)
        [Messenger.marked d reason description]))
    have sent := within_deadLetter_of_no_id site.blobs site.channel true now reason description given
    have settled : site.restorer.deadLetter d reason description now = (.ok (.ok ()), later) :=
      (Action.onSuccess_of_ok sent).trans (Action.bind_of_ok run)
    rw [settled]
    refine ⟨messenger ▸ aside.ids, keys ▸ aside.keys, messenger ▸ aside.filed, aside.bare,
      messenger ▸ aside.others, aside.unsent, fun distinct => ?_⟩
    obtain ⟨id, some_id⟩ := aside.id_of_delivered ⟨messenger ▸ distinct.ids, keys ▸ distinct.keys⟩ known
    rw [given] at some_id
    cases some_id
  | some id =>
    have only : ∀ m ∈ [d], m ∈ delivered := List.forall_mem_singleton.mpr known
    obtain ⟨later, run, next⟩ := aside.settle lawful only
    have sent := within_deadLetter_of_id site.blobs site.channel true now reason description given
    have named : [d].filterMap Message.id = [id] := by
      simp only [List.filterMap_cons, given, List.filterMap_nil]
    rw [named] at run
    have settled : site.restorer.deadLetter d reason description now = (.ok (.ok ()), later) :=
      (Action.onSuccess_of_ok sent).trans (Action.bind_of_ok run)
    rw [settled]
    exact next

end Depot.Offload
