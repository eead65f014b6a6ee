import Depot.Proofs.Messenger.Memory
import Depot.Proofs.Offload.Restoring
import Mathlib.Data.List.Pairwise

namespace Depot.Offload

open Messenger.Memory (blind unnamed isNamed isNamed_iff)

structure Books where
  /-- The identifiers given out so far, in order. -/
  ids : List String
  /-- The keys drawn so far, in order. -/
  keys : List String
  /-- The blobs at the start. -/
  before : String → Option Bytes
  blobs : String → Option Bytes
  /-- No operation of the store has failed. -/
  faultless : Prop
  sent : List Message
  kept : List Message
  loose : List Message
  delivered : List Message

namespace Books

structure Balanced (a : Books) : Prop where
  identified : a.sent.map Message.id = a.ids.map some
  named : ((a.sent ++ a.loose).filterMap blobKey?).Sublist a.keys
  part : a.kept.Subperm a.sent
  backed : ∀ m ∈ a.kept ++ a.loose, ∀ key, blobKey? m = some key →
    ∃ data, Names m key data ∧ a.blobs key = some data
  original : ∀ m ∈ a.sent ++ a.loose, m.origin = none
  /-- What has been delivered stems from a message sent, and remembers the blob that it named. -/
  known : ∀ d ∈ a.delivered, ∃ m ∈ a.sent, d.id = m.id ∧ d.origin = blobKey? m
  untouched : ∀ key ∉ a.keys, a.blobs key = a.before key
  exact : a.faultless → ∀ key ∈ a.keys, a.blobs key ≠ none → ∃ m ∈ a.kept ++ a.loose, blobKey? m = some key

/-- Two members of a list that a partial function sends to one value are the same, if no value is met
twice. -/
theorem eq_of_nodup_filterMap {α β : Type} {f : α → Option β} {l : List α}
    (distinct : (l.filterMap f).Nodup) {a b : α} (left : a ∈ l) (right : b ∈ l) {value : β}
    (atLeft : f a = some value) (atRight : f b = some value) : a = b := by
  by_contra different
  have apart := List.pairwise_filterMap.mp distinct
  have symmetric : Std.Symm fun x y : α => ∀ u, f x = some u → ∀ v, f y = some v → u ≠ v :=
    ⟨fun x y other u atY v atX => (other v atX u atY).symm⟩
  exact apart.forall left right different value atLeft value atRight rfl

theorem mem_append_snoc {α : Type} {l l' : List α} {x y : α} : x ∈ l ++ (l' ++ [y]) ↔ x ∈ l ++ l' ∨ x = y := by
  rw [← List.append_assoc, List.mem_append, List.mem_singleton]

variable {a : Books}

theorem Balanced.mem_sent (balanced : a.Balanced) {m : Message} (member : m ∈ a.kept ++ a.loose) :
    m ∈ a.sent ++ a.loose := by
  rcases List.mem_append.mp member with held | packed
  · exact List.mem_append_left _ (balanced.part.subset held)
  · exact List.mem_append_right _ packed

theorem Balanced.key_drawn (balanced : a.Balanced) {m : Message} (member : m ∈ a.kept ++ a.loose)
    {key : String} (names : blobKey? m = some key) : key ∈ a.keys :=
  balanced.named.subset (List.mem_filterMap.mpr ⟨m, balanced.mem_sent member, names⟩)

theorem Balanced.ids_sent_nodup (balanced : a.Balanced) (distinct : a.ids.Nodup) :
    (a.sent.map Message.id).Nodup := by
  rw [balanced.identified]
  exact distinct.map fun _ _ => Option.some.inj

theorem Balanced.ids_kept_nodup (balanced : a.Balanced) (distinct : a.ids.Nodup) :
    (a.kept.map Message.id).Nodup := by
  obtain ⟨l, same, within⟩ := balanced.part
  exact (same.map Message.id).nodup_iff.mp ((balanced.ids_sent_nodup distinct).sublist (within.map _))

theorem Balanced.pack_whole (balanced : a.Balanced) {m : Message} (inline : blobKey? m = none)
    (original : m.origin = none) : { a with loose := a.loose ++ [m] }.Balanced where
  identified := balanced.identified
  named := by
    simp only [← List.append_assoc, List.filterMap_append, List.filterMap_cons, inline, List.filterMap_nil,
      List.append_nil]
    simpa only [List.filterMap_append] using balanced.named
  part := balanced.part
  backed := by
    intro other member key names
    rcases mem_append_snoc.mp member with old | rfl
    · exact balanced.backed other old key names
    · rw [inline] at names
      cases names
  original := by
    intro other member
    rcases mem_append_snoc.mp member with old | rfl
    · exact balanced.original other old
    · exact original
  known := balanced.known
  untouched := balanced.untouched
  exact faultless key drawn present := by
    obtain ⟨other, member, names⟩ := balanced.exact faultless key drawn present
    exact ⟨other, mem_append_snoc.mpr (Or.inl member), names⟩

theorem Balanced.pack_pointer (balanced : a.Balanced) {m : Message} {key : String} {data : Bytes}
    (names : Names m key data) (original : m.origin = none) (fresh : key ∉ a.keys) {faultless : Prop}
    (before : faultless → a.faultless) :
    { a with
      keys := a.keys ++ [key]
      blobs := Function.update a.blobs key (some data)
      faultless
      loose := a.loose ++ [m] }.Balanced where
  identified := balanced.identified
  named := by
    have last : [m].filterMap blobKey? = [key] := by
      simp only [List.filterMap_cons, names.key, List.filterMap_nil]
    simp only [← List.append_assoc, List.filterMap_append, last]
    exact (List.filterMap_append ▸ balanced.named).append (List.Sublist.refl _)
  part := balanced.part
  backed := by
    intro other member key' names'
    rcases mem_append_snoc.mp member with old | rfl
    · obtain ⟨data', pointer, present⟩ := balanced.backed other old key' names'
      have different : key' ≠ key := fun same => fresh (same ▸ balanced.key_drawn old names')
      exact ⟨data', pointer, (Function.update_of_ne different _ _).trans present⟩
    · rw [names.key] at names'
      cases names'
      exact ⟨data, names, Function.update_self _ _ _⟩
  original := by
    intro other member
    rcases mem_append_snoc.mp member with old | rfl
    · exact balanced.original other old
    · exact original
  known := balanced.known
  untouched key' away := by
    rw [List.mem_append, List.mem_singleton, not_or] at away
    exact (Function.update_of_ne away.2 _ _).trans (balanced.untouched key' away.1)
  exact now key' drawn present := by
    rw [List.mem_append, List.mem_singleton] at drawn
    by_cases same : key' = key
    · exact ⟨m, mem_append_snoc.mpr (Or.inr rfl), same ▸ names.key⟩
    · have before_too : a.blobs key' ≠ none := Function.update_of_ne same _ a.blobs ▸ present
      obtain ⟨other, member, names'⟩ := balanced.exact (before now) key' (drawn.resolve_right same) before_too
      exact ⟨other, mem_append_snoc.mpr (Or.inl member), names'⟩

theorem Balanced.pack_failed (balanced : a.Balanced) (key : String) {faultless : Prop} (failed : ¬ faultless) :
    { a with keys := a.keys ++ [key], faultless }.Balanced where
  identified := balanced.identified
  named := balanced.named.trans (List.sublist_append_left _ _)
  part := balanced.part
  backed := balanced.backed
  original := balanced.original
  known := balanced.known
  untouched key' away := balanced.untouched key' fun drawn => away (List.mem_append_left _ drawn)
  exact now := absurd now failed

/-- Packed messages are given up after a failure, and their blobs are removed or left in place. -/
theorem Balanced.give_up (balanced : a.Balanced) (distinct : a.keys.Nodup) {faultless : Prop}
    (failed : ¬ faultless) {blobs : String → Option Bytes}
    (effect : blobs = a.blobs ∨ blobs = withoutKeys a.blobs (a.loose.filterMap blobKey?)) :
    { a with blobs, faultless, loose := [] }.Balanced where
  identified := balanced.identified
  named := by
    have front : (a.sent ++ []).Sublist (a.sent ++ a.loose) := (List.nil_sublist a.loose).append_left a.sent
    exact (front.filterMap blobKey?).trans balanced.named
  part := balanced.part
  backed := by
    intro m member key names
    rw [List.append_nil] at member
    obtain ⟨data, pointer, present⟩ := balanced.backed m (List.mem_append_left _ member) key names
    refine ⟨data, pointer, ?_⟩
    rcases effect with rfl | rfl
    · exact present
    · -- The keys of what was sent and of what was packed are different, so that this blob is left alone.
      have apart := List.filterMap_append ▸ distinct.sublist balanced.named
      have inSent : key ∈ a.sent.filterMap blobKey? :=
        List.mem_filterMap.mpr ⟨m, balanced.part.subset member, names⟩
      have notLoose : key ∉ a.loose.filterMap blobKey? := fun inLoose =>
        (List.nodup_append.mp apart).2.2 key inSent key inLoose rfl
      exact (withoutKeys_of_not_mem notLoose).trans present
  original m member := balanced.original m (List.mem_append_left _ (List.append_nil a.sent ▸ member))
  known := balanced.known
  untouched := by
    intro key away
    rcases effect with rfl | rfl
    · exact balanced.untouched key away
    · have notLoose : key ∉ a.loose.filterMap blobKey? := fun inLoose =>
        away (balanced.named.subset (List.filterMap_append ▸ List.mem_append_right _ inLoose))
      exact (withoutKeys_of_not_mem notLoose).trans (balanced.untouched key away)
  exact now := absurd now failed

/-- What was packed is sent: it is given identifiers and stays otherwise as it is. -/
theorem Balanced.send (balanced : a.Balanced) {out kept : List Message} {ids : List String}
    (given : out.map Message.id = ids.map some)
    (properties : out.map Message.properties = a.loose.map Message.properties)
    (origins : out.map Message.origin = a.loose.map Message.origin) (added : kept.Perm (a.kept ++ out)) :
    { a with ids := a.ids ++ ids, sent := a.sent ++ out, kept, loose := [] }.Balanced where
  identified := by simp only [List.map_append, balanced.identified, given]
  named := by
    have keys : out.filterMap blobKey? = a.loose.filterMap blobKey? := by
      have through (l : List Message) : l.filterMap blobKey? =
          (l.map Message.properties).filterMap fun properties => properties.get? contentHeader := by
        rw [List.filterMap_map]
        rfl
      rw [through, through, properties]
    simp only [List.append_nil, List.filterMap_append, keys]
    exact List.filterMap_append ▸ balanced.named
  part := added.subperm.trans ((List.subperm_append_right out).mpr balanced.part)
  backed := by
    intro m member key names
    rw [List.append_nil, added.mem_iff, List.mem_append] at member
    rcases member with old | new
    · exact balanced.backed m (List.mem_append_left _ old) key names
    · obtain ⟨packed, inLoose, same⟩ := List.mem_map.mp (properties ▸ List.mem_map_of_mem new)
      obtain ⟨data, pointer, present⟩ :=
        balanced.backed packed (List.mem_append_right _ inLoose) key ((blobKey?_congr same).trans names)
      exact ⟨data, pointer.congr same, present⟩
  original := by
    intro m member
    rw [List.append_nil, List.mem_append] at member
    rcases member with old | new
    · exact balanced.original m (List.mem_append_left _ old)
    · obtain ⟨packed, inLoose, same⟩ := List.mem_map.mp (origins ▸ List.mem_map_of_mem new)
      exact same.symm.trans (balanced.original packed (List.mem_append_right _ inLoose))
  known d member := by
    obtain ⟨m, inSent, same⟩ := balanced.known d member
    exact ⟨m, List.mem_append_left _ inSent, same⟩
  untouched := balanced.untouched
  exact faultless key drawn present := by
    obtain ⟨m, member, names⟩ := balanced.exact faultless key drawn present
    simp only [List.append_nil, added.mem_iff]
    rcases List.mem_append.mp member with old | packed
    · exact ⟨m, List.mem_append_left _ old, names⟩
    · obtain ⟨new, inOut, same⟩ := List.mem_map.mp (properties.symm ▸ List.mem_map_of_mem packed)
      exact ⟨new, List.mem_append_right _ inOut, (blobKey?_congr same).trans names⟩

theorem Balanced.move (balanced : a.Balanced) {kept : List Message} (moved : kept.Perm a.kept) :
    { a with kept }.Balanced where
  identified := balanced.identified
  named := balanced.named
  part := moved.subperm.trans balanced.part
  backed m member := balanced.backed m ((moved.append_right _).mem_iff.mp member)
  original := balanced.original
  known := balanced.known
  untouched := balanced.untouched
  exact faultless key drawn present := by
    obtain ⟨m, member, names⟩ := balanced.exact faultless key drawn present
    exact ⟨m, (moved.append_right _).mem_iff.mpr member, names⟩

/-- Messages of the channel are delivered, with their contents where these lie in blobs. -/
theorem Balanced.deliver (balanced : a.Balanced) {new : List Message} {map : String → Option Bytes}
    (made : ∀ d ∈ new, ∃ m, blind m ∈ a.kept ∧ Restorer.IsRestored map m d) {faultless : Prop}
    (before : faultless → a.faultless) :
    { a with faultless, delivered := a.delivered ++ new }.Balanced where
  identified := balanced.identified
  named := balanced.named
  part := balanced.part
  backed := balanced.backed
  original := balanced.original
  known d member := by
    rcases List.mem_append.mp member with old | fresh
    · exact balanced.known d old
    · obtain ⟨m, held, restored⟩ := made d fresh
      have inSent := balanced.part.subset held
      refine ⟨blind m, inSent, ?_⟩
      rcases restored with ⟨inline, rfl⟩ | ⟨key, content, names, -, rfl⟩
      · exact ⟨rfl, (balanced.original _ (List.mem_append_left _ inSent)).trans inline.symm⟩
      · exact ⟨rfl, names.symm⟩
  untouched := balanced.untouched
  exact now := balanced.exact (before now)

/-- Among messages that were delivered, a message of the channel is found by its identifier exactly when its
blob is found among their origins. -/
theorem Balanced.isNamed_iff_removed (balanced : a.Balanced) (ids_distinct : a.ids.Nodup)
    (keys_distinct : a.keys.Nodup) {messages : List Message} (delivered : ∀ d ∈ messages, d ∈ a.delivered)
    {m : Message} (member : m ∈ a.sent) {key : String} (names : blobKey? m = some key) :
    isNamed (messages.filterMap Message.id) m ↔ key ∈ messages.filterMap Message.origin := by
  -- An identifier singles out one message among those sent, and so does a key.
  have ids_once := balanced.ids_sent_nodup ids_distinct
  have keys_once : (a.sent.filterMap blobKey?).Nodup := by
    have front := List.filterMap_append ▸ keys_distinct.sublist balanced.named
    exact front.sublist (List.sublist_append_left _ _)
  rw [isNamed_iff, List.mem_filterMap]
  constructor
  · rintro ⟨id, given, named⟩
    obtain ⟨d, among, same⟩ := List.mem_filterMap.mp named
    obtain ⟨source, inSent, same_id, same_key⟩ := balanced.known d (delivered d among)
    have one : source = m := List.inj_on_of_nodup_map ids_once inSent member
      (same_id.symm.trans (same.trans given.symm))
    exact ⟨d, among, same_key.trans (one ▸ names)⟩
  · rintro ⟨d, among, from_key⟩
    obtain ⟨source, inSent, same_id, same_key⟩ := balanced.known d (delivered d among)
    have one : source = m := eq_of_nodup_filterMap keys_once inSent member (same_key.symm.trans from_key) names
    obtain ⟨id, -, given⟩ := List.mem_map.mp (balanced.identified ▸ List.mem_map_of_mem inSent)
    exact ⟨id, one ▸ given.symm, List.mem_filterMap.mpr ⟨d, among, same_id.trans given.symm⟩⟩

/-- Delivered messages are settled: they leave the channel, and then the blobs that they came from are
removed, or none is if the store fails. -/
theorem Balanced.settle (balanced : a.Balanced) (ids_distinct : a.ids.Nodup) (keys_distinct : a.keys.Nodup)
    (nothing_loose : a.loose = []) {messages : List Message} (delivered : ∀ d ∈ messages, d ∈ a.delivered)
    {blobs : String → Option Bytes} {faultless : Prop}
    (effect : (blobs = withoutKeys a.blobs (messages.filterMap Message.origin) ∧ (faultless → a.faultless)) ∨
      (blobs = a.blobs ∧ ¬ faultless)) :
    { a with blobs, faultless, kept := unnamed (messages.filterMap Message.id) a.kept }.Balanced := by
  have leaves {m : Message} (member : m ∈ a.kept) {key : String} (names : blobKey? m = some key) :
      isNamed (messages.filterMap Message.id) m ↔ key ∈ messages.filterMap Message.origin :=
    balanced.isNamed_iff_removed ids_distinct keys_distinct delivered (balanced.part.subset member) names
  have stays : (unnamed (messages.filterMap Message.id) a.kept).Sublist a.kept := List.filter_sublist
  refine ⟨balanced.identified, balanced.named, stays.subperm.trans balanced.part, ?_, balanced.original,
    balanced.known, ?_, ?_⟩
  · intro m member key names
    simp only [nothing_loose, List.append_nil] at member
    obtain ⟨held, away⟩ := List.mem_filter.mp member
    obtain ⟨data, pointer, present⟩ := balanced.backed m (List.mem_append_left _ held) key names
    refine ⟨data, pointer, ?_⟩
    rcases effect with ⟨rfl, -⟩ | ⟨rfl, -⟩
    -- A message that stays was not named, and then its blob was not removed.
    · rw [Bool.not_eq_true', ← Bool.not_eq_true, leaves held names] at away
      exact (withoutKeys_of_not_mem away).trans present
    · exact present
  · intro key away
    rcases effect with ⟨rfl, -⟩ | ⟨rfl, -⟩
    · have other : key ∉ messages.filterMap Message.origin := by
        intro removed
        obtain ⟨d, among, from_key⟩ := List.mem_filterMap.mp removed
        obtain ⟨source, inSent, -, same_key⟩ := balanced.known d (delivered d among)
        refine away (balanced.named.subset (List.mem_filterMap.mpr ⟨source, ?_, same_key.symm.trans from_key⟩))
        exact List.mem_append_left _ inSent
      exact (withoutKeys_of_not_mem other).trans (balanced.untouched key away)
    · exact balanced.untouched key away
  · intro now key drawn present
    rcases effect with ⟨rfl, before⟩ | ⟨-, failed⟩
    · have other : key ∉ messages.filterMap Message.origin := fun removed =>
        present (withoutKeys_of_mem removed)
      have there : a.blobs key ≠ none := fun gone => present ((withoutKeys_of_not_mem other).trans gone)
      obtain ⟨m, member, names⟩ := balanced.exact (before now) key drawn there
      rw [nothing_loose, List.append_nil] at member
      rw [← leaves member names] at other
      simp only [nothing_loose, List.append_nil]
      refine ⟨m, List.mem_filter.mpr ⟨member, ?_⟩, names⟩
      rw [Bool.not_eq_true', ← Bool.not_eq_true]
      exact other
    · exact absurd now failed

end Books
end Depot.Offload
