import Depot.Table
import Mathlib.Data.List.Basic
import Mathlib.Data.List.Induction
import Mathlib.Data.List.Nodup
import Mathlib.Data.List.Perm.Subperm

namespace Depot.Table

universe u v
variable {κ : Type u} {α : Type v}

theorem mem_keys {t : Table κ α} {k : κ} : k ∈ t.keys ↔ ∃ a, (k, a) ∈ t.entries := by
  simp [keys]

theorem mem_values {t : Table κ α} {a : α} : a ∈ t.values ↔ ∃ k, (k, a) ∈ t.entries := by
  simp [values]

/-- A key has one entry at most. -/
theorem value_unique {t : Table κ α} {k : κ} {a b : α} (left : (k, a) ∈ t.entries)
    (right : (k, b) ∈ t.entries) : a = b :=
  congrArg Prod.snd (List.inj_on_of_nodup_map t.distinct left right rfl)

theorem keys_map {β : Type v} (f : α → β) (t : Table κ α) : (t.map f).keys = t.keys := by
  simp only [keys, map, List.map_map, Function.comp_def]

variable [DecidableEq κ]

theorem get?_eq_some_iff {t : Table κ α} {k : κ} {a : α} : t.get? k = some a ↔ (k, a) ∈ t.entries := by
  unfold get?
  rw [Option.map_eq_some_iff]
  constructor
  · rintro ⟨e, found, rfl⟩
    have same : e.1 = k := by simpa using List.find?_some found
    exact same ▸ List.mem_of_find?_eq_some found
  · intro member
    cases found : t.entries.find? fun e => e.1 = k with
    | none =>
      have other := List.find?_eq_none.mp found _ member
      simp at other
    | some e =>
      have same : e.1 = k := by simpa using List.find?_some found
      exact ⟨e, rfl, value_unique (same ▸ List.mem_of_find?_eq_some found) member⟩

theorem get?_eq_none_iff {t : Table κ α} {k : κ} : t.get? k = none ↔ k ∉ t.keys := by
  rw [Option.eq_none_iff_forall_ne_some, mem_keys, not_exists]
  exact forall_congr' fun a => not_congr get?_eq_some_iff

/-- A new key goes to the end. -/
theorem entries_put_of_not_mem {t : Table κ α} {k : κ} (fresh : k ∉ t.keys) (a : α) :
    (t.put k a).entries = t.entries ++ [(k, a)] := by
  have appended (l : List (κ × α)) (away : k ∉ l.map Prod.fst) : putIn k a l = l ++ [(k, a)] := by
    induction l with
    | nil => rfl
    | cons e rest ih =>
      rw [List.map_cons, List.mem_cons, not_or] at away
      rw [putIn, if_neg (Ne.symm away.1), ih away.2, List.cons_append]
  exact appended t.entries fresh

theorem mem_entries_put {t : Table κ α} {k : κ} {a : α} {e : κ × α} :
    e ∈ (t.put k a).entries ↔ e = (k, a) ∨ (e ∈ t.entries ∧ e.1 ≠ k) := by
  obtain ⟨k', b⟩ := e
  rw [← get?_eq_some_iff, get?_put, ← get?_eq_some_iff]
  by_cases same : k = k'
  · subst same
    simp [eq_comm]
  · simp [same, Ne.symm same]

theorem get?_ensure (k : κ) (a : α) (t : Table κ α) (k' : κ) :
    (t.ensure k a).get? k' = if k = k' then some ((t.get? k).getD a) else t.get? k' := by
  unfold ensure
  cases there : t.get? k with
  | none =>
    have absent : t.contains k = false := by rw [contains_eq_isSome, there, Option.isSome_none]
    rw [absent, if_neg Bool.false_ne_true, get?_put, Option.getD_none]
  | some b =>
    have present : t.contains k = true := by rw [contains_eq_isSome, there, Option.isSome_some]
    rw [present, if_pos rfl, Option.getD_some]
    split
    · rename_i same
      rw [← same, there]
    · rfl

theorem contains_iff {t : Table κ α} {k : κ} : t.contains k ↔ k ∈ t.keys := by
  rw [contains_eq_isSome, ← not_iff_not, Option.not_isSome_iff_eq_none, get?_eq_none_iff]

theorem keys_ensure (k : κ) (a : α) (t : Table κ α) :
    (t.ensure k a).keys = if k ∈ t.keys then t.keys else t.keys ++ [k] := by
  unfold ensure
  by_cases known : k ∈ t.keys
  · rw [if_pos (contains_iff.mpr known), if_pos known]
  · rw [if_neg (contains_iff.not.mpr known), keys_put]

theorem keys_alter (k : κ) (f : α → α) (t : Table κ α) : (t.alter k f).keys = t.keys := by
  unfold alter
  cases there : t.get? k with
  | none => rfl
  | some a => rw [keys_put, if_pos (mem_keys.mpr ⟨a, get?_eq_some_iff.mp there⟩)]

theorem get?_alter (k : κ) (f : α → α) (t : Table κ α) (k' : κ) :
    (t.alter k f).get? k' = if k = k' then (t.get? k).map f else t.get? k' := by
  unfold alter
  cases there : t.get? k with
  | none =>
    simp only [Option.map_none]
    split
    · rename_i same
      rw [← same, there]
    · rfl
  | some b => simp only [get?_put, Option.map_some]

/-- What is in a table after some entries were written was there before, or is one of them. -/
theorem mem_of_mem_entries_putAll {l : List (κ × α)} {t : Table κ α} {e : κ × α}
    (member : e ∈ (t.putAll l).entries) : e ∈ t.entries ∨ e ∈ l := by
  induction l generalizing t with
  | nil => exact Or.inl member
  | cons first rest ih =>
    rcases ih (t := t.put first.1 first.2) member with before | later
    · rcases mem_entries_put.mp before with rfl | ⟨old, -⟩
      · exact Or.inr List.mem_cons_self
      · exact Or.inl old
    · exact Or.inr (List.mem_cons_of_mem _ later)

/-- Every entry that is written makes a table longer by one at most. -/
theorem size_putAll_le (l : List (κ × α)) (t : Table κ α) : (t.putAll l).size ≤ t.size + l.length := by
  have one (k : κ) (a : α) (t : Table κ α) : (t.put k a).size ≤ t.size + 1 := by
    have length (t : Table κ α) : t.size = t.keys.length := (List.length_map _).symm
    rw [length, length, keys_put]
    split
    · exact Nat.le_succ _
    · exact Nat.le_of_eq List.length_append
  induction l generalizing t with
  | nil => exact Nat.le_refl _
  | cons e rest ih =>
    have first := one e.1 e.2 t
    have others := ih (t.put e.1 e.2)
    have step : t.putAll (e :: rest) = (t.put e.1 e.2).putAll rest := rfl
    rw [step, List.length_cons]
    omega

/-- New keys go to the end, in order. -/
theorem entries_putAll_of_fresh {l : List (κ × α)} {t : Table κ α}
    (distinct : (t.keys ++ l.map Prod.fst).Nodup) : (t.putAll l).entries = t.entries ++ l := by
  induction l generalizing t with
  | nil => simp [putAll]
  | cons e rest ih =>
    have split := distinct
    rw [List.map_cons, List.nodup_append] at split
    have fresh : e.1 ∉ t.keys := fun member => split.2.2 _ member _ List.mem_cons_self rfl
    have keys : (t.put e.1 e.2).keys = t.keys ++ [e.1] := by rw [keys_put, if_neg fresh]
    have later : ((t.put e.1 e.2).keys ++ rest.map Prod.fst).Nodup := by
      rw [keys, List.append_assoc, List.singleton_append]
      exact distinct
    have step : t.putAll (e :: rest) = (t.put e.1 e.2).putAll rest := rfl
    rw [step, ih later, entries_put_of_not_mem fresh, List.append_assoc, List.singleton_append]

theorem mem_keys_putAll {l : List (κ × α)} {t : Table κ α} {k : κ} :
    k ∈ (t.putAll l).keys ↔ k ∈ t.keys ∨ k ∈ l.map Prod.fst := by
  induction l generalizing t with
  | nil => simp [putAll]
  | cons e rest ih =>
    have step : t.putAll (e :: rest) = (t.put e.1 e.2).putAll rest := rfl
    have first : k ∈ (t.put e.1 e.2).keys ↔ k ∈ t.keys ∨ k = e.1 := by
      rw [keys_put]
      split
      · rename_i there
        exact ⟨Or.inl, fun member => member.elim id fun same => same ▸ there⟩
      · rw [List.mem_append, List.mem_singleton]
    rw [step, ih, first, List.map_cons, List.mem_cons, or_assoc]

theorem get?_filter (p : κ × α → Bool) (t : Table κ α) (k : κ) :
    (t.filter p).get? k = (t.get? k).filter fun a => p (k, a) := by
  ext a
  rw [get?_eq_some_iff, Option.filter_eq_some_iff, get?_eq_some_iff]
  exact List.mem_filter

/-- Erasing keys is filtering by any test that tells them from the others. -/
theorem entries_eraseAll {keys : List κ} {t : Table κ α} {p : κ × α → Bool}
    (kept : ∀ e ∈ t.entries, p e ↔ e.1 ∉ keys) : (t.eraseAll keys).entries = t.entries.filter p := by
  refine List.filter_congr fun e member => ?_
  rw [Bool.eq_iff_iff, kept e member]
  simp

theorem get?_eraseAll (keys : List κ) (t : Table κ α) (k : κ) :
    (t.eraseAll keys).get? k = if k ∈ keys then none else t.get? k := by
  rw [eraseAll, get?_filter]
  by_cases named : k ∈ keys <;> cases t.get? k <;> simp [named]

theorem keys_eraseAll (keys : List κ) (t : Table κ α) :
    (t.eraseAll keys).keys = t.keys.filter fun k => !keys.contains k := by
  rw [Table.keys, Table.keys, List.filter_map]
  rfl

theorem not_mem_keys_eraseAll {keys : List κ} {k : κ} (erased : k ∈ keys) (t : Table κ α) :
    k ∉ (t.eraseAll keys).keys := by
  rw [← get?_eq_none_iff, get?_eraseAll, if_pos erased]

/-- What is written under a key that is erased leaves no trace. -/
theorem eraseAll_put {keys : List κ} {k : κ} (erased : k ∈ keys) (a : α) (t : Table κ α) :
    (t.put k a).eraseAll keys = t.eraseAll keys := by
  have filtered (l : List (κ × α)) :
      (putIn k a l).filter (fun e => !keys.contains e.1) = l.filter fun e => !keys.contains e.1 := by
    induction l with
    | nil => simp [putIn, erased]
    | cons e rest ih =>
      rw [putIn]
      split
      · rename_i same
        simp [same, erased]
      · rw [List.filter_cons, List.filter_cons, ih]
  exact eq_of_entries (filtered t.entries)

theorem eraseAll_of_absent {keys : List κ} {t : Table κ α} (absent : ∀ k ∈ keys, t.get? k = none) :
    t.eraseAll keys = t := by
  refine eq_of_entries (List.filter_eq_self.mpr fun e member => ?_)
  have away : e.1 ∉ keys := fun named => get?_eq_none_iff.mp (absent e.1 named) (List.mem_map_of_mem member)
  simpa using away

theorem eraseAll_congr {left right : List κ} (same : ∀ k, k ∈ left ↔ k ∈ right) (t : Table κ α) :
    t.eraseAll left = t.eraseAll right := by
  refine eq_of_entries (List.filter_congr fun e _ => ?_)
  rw [Bool.eq_iff_iff]
  simp [same]

theorem eraseAll_eraseAll (left right : List κ) (t : Table κ α) :
    (t.eraseAll left).eraseAll right = t.eraseAll (left ++ right) := by
  refine eq_of_entries ((List.filter_filter ..).trans (List.filter_congr fun e _ => ?_))
  rw [Bool.eq_iff_iff]
  simp [and_comm]

theorem entries_eq_filterMap (t : Table κ α) :
    t.entries = t.keys.filterMap fun k => (t.get? k).map fun a => (k, a) := by
  have each : ∀ e ∈ t.entries, ((t.get? e.1).map fun a => (e.1, a)) = some e := by
    intro e member
    rw [get?_eq_some_iff.mpr member]
    rfl
  rw [keys, List.filterMap_map]
  exact (List.filterMap_some.symm.trans (List.filterMap_congr fun e member => (each e member).symm))

/-- Two tables with the same keys in the same order and the same values are equal. -/
theorem ext {t s : Table κ α} (keys : t.keys = s.keys) (values : ∀ k, t.get? k = s.get? k) : t = s := by
  refine eq_of_entries ?_
  rw [entries_eq_filterMap t, entries_eq_filterMap s, keys]
  simp only [values]

theorem mem_keys_ensure (k : κ) (a : α) (t : Table κ α) : k ∈ (t.ensure k a).keys := by
  rw [keys_ensure]
  split_ifs with known
  · exact known
  · exact List.mem_append_right _ List.mem_cons_self

theorem ensure_of_mem {t : Table κ α} {k : κ} (known : k ∈ t.keys) (a : α) : t.ensure k a = t := by
  obtain ⟨b, member⟩ := mem_keys.mp known
  rw [ensure, contains_eq_isSome, get?_eq_some_iff.mpr member, Option.isSome_some, if_pos rfl]

theorem alter_alter (k : κ) (f g : α → α) (t : Table κ α) :
    (t.alter k f).alter k g = t.alter k fun a => g (f a) := by
  refine ext (by rw [keys_alter, keys_alter, keys_alter]) fun k' => ?_
  simp only [get?_alter]
  split_ifs
  · rw [Option.map_map]
    rfl
  · rfl

/-- The last entry written under a key counts, and without one what was there before. -/
theorem get?_putAll (l : List (κ × α)) (t : Table κ α) (k : κ) :
    (t.putAll l).get? k = ((ofList l).get? k).or (t.get? k) := by
  induction l generalizing t with
  | nil => rfl
  | cons e rest ih =>
    have first : (t.put e.1 e.2).get? k = ((empty.put e.1 e.2).get? k).or (t.get? k) := by
      rw [get?_put, get?_put]
      split <;> rfl
    have left : t.putAll (e :: rest) = (t.put e.1 e.2).putAll rest := rfl
    have right : ofList (e :: rest) = (empty.put e.1 e.2).putAll rest := rfl
    rw [left, right, ih, ih, first, Option.or_assoc]

theorem ofList_entries (t : Table κ α) : ofList t.entries = t := by
  refine eq_of_entries ?_
  rw [ofList, entries_putAll_of_fresh (by simpa [keys] using t.distinct)]
  rfl

theorem keys_putAll_congr {β : Type v} {l : List (κ × α)} {l' : List (κ × β)} {t : Table κ α} {t' : Table κ β}
    (same : l.map Prod.fst = l'.map Prod.fst) (keys : t.keys = t'.keys) :
    (t.putAll l).keys = (t'.putAll l').keys := by
  induction l generalizing l' t t' with
  | nil =>
    cases l' with
    | nil => exact keys
    | cons e' rest' => cases same
  | cons e rest ih =>
    cases l' with
    | nil => cases same
    | cons e' rest' =>
      rw [List.map_cons, List.map_cons, List.cons.injEq] at same
      have first : (t.put e.1 e.2).keys = (t'.put e'.1 e'.2).keys := by
        rw [keys_put, keys_put, keys, same.1]
      have others := ih same.2 first
      exact others

/-- Writing the entries of a table that has been written to is writing its entries and then that. -/
theorem putAll_entries_put (t s : Table κ α) (k : κ) (a : α) :
    t.putAll (s.put k a).entries = (t.putAll s.entries).put k a := by
  by_cases there : k ∈ s.keys
  · have same : (s.put k a).entries.map Prod.fst = s.entries.map Prod.fst := by
      have unchanged := keys_put k a s
      rw [if_pos there] at unchanged
      exact unchanged
    have inside : k ∈ (t.putAll s.entries).keys := by
      rw [← not_not (a := k ∈ _), ← get?_eq_none_iff, get?_putAll, ofList_entries, Option.or_eq_none_iff]
      exact fun absent => get?_eq_none_iff.mp absent.1 there
    refine ext ?_ fun k' => ?_
    · rw [keys_putAll_congr same rfl, keys_put, if_pos inside]
    · rw [get?_putAll, ofList_entries, get?_put, get?_put, get?_putAll, ofList_entries]
      split <;> rfl
  · rw [entries_put_of_not_mem there, putAll, List.foldl_append]
    rfl

/-- Entries that were first gathered in a table are written as if each had been written itself. -/
theorem putAll_entries_ofList (t : Table κ α) (l : List (κ × α)) : t.putAll (ofList l).entries = t.putAll l := by
  induction l using List.reverseRecOn with
  | nil => rfl
  | append_singleton l e ih =>
    have last (s : Table κ α) : s.putAll (l ++ [e]) = (s.putAll l).put e.1 e.2 := List.foldl_append
    rw [ofList, last, putAll_entries_put, last]
    exact congrArg (put e.1 e.2) ih

theorem ofList_concat (l : List (κ × α)) (e : κ × α) : ofList (l ++ [e]) = (ofList l).put e.1 e.2 :=
  List.foldl_append

/-- The keys of a list of entries, in the order in which they first occur. -/
theorem keys_ofList (l : List (κ × α)) : (ofList l).keys = (l.map Prod.fst).eraseDups := by
  induction l using List.reverseRecOn with
  | nil => rfl
  | append_singleton l e ih =>
    rw [ofList_concat, keys_put, ih, List.map_append, List.eraseDups_append]
    by_cases there : e.1 ∈ l.map Prod.fst
    · simp [there, List.removeAll]
    · simp [there, List.removeAll, List.eraseDups_cons]

/-- Under a key stands the value of its last entry. -/
theorem get?_ofList (l : List (κ × α)) (k : κ) :
    (ofList l).get? k = (l.reverse.find? fun e => e.1 = k).map Prod.snd := by
  induction l using List.reverseRecOn with
  | nil => rfl
  | append_singleton l e ih =>
    rw [ofList_concat, get?_put, ih, List.reverse_append, List.reverse_singleton, List.singleton_append]
    by_cases same : e.1 = k
    · simp [same]
    · simp [same]

theorem put_put (k : κ) (a b : α) (t : Table κ α) : (t.put k a).put k b = t.put k b := by
  have there : k ∈ (t.put k a).keys := mem_keys.mpr ⟨a, mem_entries_put.mpr (Or.inl rfl)⟩
  refine ext ?_ fun other => ?_
  · rw [keys_put k b (t.put k a), if_pos there, keys_put, keys_put]
  · rw [get?_put, get?_put, get?_put]
    split <;> rfl

theorem get?_map {β : Type v} (f : α → β) (t : Table κ α) (k : κ) : (t.map f).get? k = (t.get? k).map f := by
  simp only [get?, map, List.find?_map, Option.map_map, Function.comp_def]

theorem map_put {β : Type v} (f : α → β) (k : κ) (a : α) (t : Table κ α) :
    (t.put k a).map f = (t.map f).put k (f a) := by
  refine ext ?_ fun other => ?_
  · rw [keys_map, keys_put, keys_put, keys_map]
  · rw [get?_map, get?_put, get?_put, get?_map]
    split <;> rfl

/-- A key that is there keeps its place. -/
theorem entries_put_of_mem {t : Table κ α} {k : κ} (there : k ∈ t.keys) (a : α) :
    (t.put k a).entries = t.entries.map fun e => if e.1 = k then (e.1, a) else e := by
  rw [entries_eq_filterMap, keys_put, if_pos there, keys, List.filterMap_map, ← List.filterMap_eq_map]
  refine List.filterMap_congr fun e member => ?_
  rw [Function.comp_apply, Function.comp_apply, get?_put, get?_eq_some_iff.mpr member]
  by_cases same : e.1 = k
  · rw [if_pos same.symm, if_pos same, Option.map_some]
  · rw [if_neg (Ne.symm same), if_neg same, Option.map_some]

section Recoded

variable {κ' : Type u} {α' : Type v} [DecidableEq κ'] {c : κ → κ'} {f : α → α'} {P : κ → Prop}

/-- New names for keys, and new values, when no two of the keys in question get the same name. -/
theorem entries_putAll_map (distinct : ∀ j k, P j → P k → c j = c k → j = k) {l : List (κ × α)}
    {t : Table κ α} {t' : Table κ' α'} (same : t'.entries = t.entries.map fun e => (c e.1, f e.2))
    (named : ∀ k ∈ t.keys, P k) (new : ∀ e ∈ l, P e.1) :
    (t'.putAll (l.map fun e => (c e.1, f e.2))).entries = (t.putAll l).entries.map fun e => (c e.1, f e.2) := by
  have one (k : κ) (a : α) (l : List (κ × α)) (named : ∀ e ∈ l, P e.1) (own : P k) :
      putIn (c k) (f a) (l.map fun e => (c e.1, f e.2)) = (putIn k a l).map fun e => (c e.1, f e.2) := by
    induction l with
    | nil => rfl
    | cons e rest ih =>
      obtain ⟨atHead, inTail⟩ := List.forall_mem_cons.mp named
      by_cases here : e.1 = k
      · simp only [List.map_cons, putIn, here, if_true]
      · have apart : c e.1 ≠ c k := fun same => here (distinct _ _ atHead own same)
        simp only [List.map_cons, putIn, here, apart, if_false, ih inTail]
  induction l generalizing t t' with
  | nil => exact same
  | cons e rest ih =>
    obtain ⟨atHead, inTail⟩ := List.forall_mem_cons.mp new
    have written : (t'.put (c e.1) (f e.2)).entries = (t.put e.1 e.2).entries.map fun e => (c e.1, f e.2) := by
      change putIn (c e.1) (f e.2) t'.entries = _
      rw [same, one e.1 e.2 _ (fun e' member => named _ (List.mem_map_of_mem member)) atHead]
      rfl
    have covered : ∀ k ∈ (t.put e.1 e.2).keys, P k := by
      intro k member
      rw [keys_put] at member
      split at member
      · exact named k member
      · rcases List.mem_append.mp member with before | now
        · exact named k before
        · exact List.mem_singleton.mp now ▸ atHead
    exact ih written covered inTail

theorem entries_eraseAll_map (distinct : ∀ j k, P j → P k → c j = c k → j = k) {ks : List κ}
    {t : Table κ α} {t' : Table κ' α'} (same : t'.entries = t.entries.map fun e => (c e.1, f e.2))
    (named : ∀ k ∈ t.keys, P k) (given : ∀ k ∈ ks, P k) :
    (t'.eraseAll (ks.map c)).entries = (t.eraseAll ks).entries.map fun e => (c e.1, f e.2) := by
  rw [entries_eraseAll (p := fun e => !(ks.map c).contains e.1) (by simp), same, List.filter_map,
    entries_eraseAll (p := fun e => !ks.contains e.1) (by simp)]
  refine congrArg _ (List.filter_congr fun e member => ?_)
  have own := named e.1 (List.mem_map_of_mem member)
  have among : c e.1 ∈ ks.map c ↔ e.1 ∈ ks := by
    rw [List.mem_map]
    constructor
    · rintro ⟨k, inside, equal⟩
      exact distinct k e.1 (given k inside) own equal ▸ inside
    · exact fun inside => ⟨e.1, inside, rfl⟩
  rw [Function.comp_apply, Bool.eq_iff_iff]
  simpa using not_congr among

end Recoded

/-- Two tables agree if they answer alike under every key. -/
theorem agrees_iff [DecidableEq α] {t s : Table κ α} : t.agrees s ↔ ∀ k, t.get? k = s.get? k := by
  have nodup (t : Table κ α) : t.entries.Nodup := .of_map _ t.distinct
  have within (inside : ∀ e ∈ t.entries, s.get? e.1 = some e.2) : t.entries ⊆ s.entries :=
    fun e member => get?_eq_some_iff.mp (inside e member)
  simp only [agrees, Bool.and_eq_true, decide_eq_true_eq, List.all_eq_true]
  constructor
  · rintro ⟨size, inside⟩ k
    have perm := (List.subperm_of_subset (nodup t) (within inside)).perm_of_length_le (Nat.le_of_eq size.symm)
    ext a
    rw [get?_eq_some_iff, get?_eq_some_iff, perm.mem_iff]
  · intro same
    have perm : t.entries.Perm s.entries := by
      rw [List.perm_ext_iff_of_nodup (nodup t) (nodup s)]
      rintro ⟨k, a⟩
      rw [← get?_eq_some_iff, ← get?_eq_some_iff, same]
    exact ⟨perm.length_eq, fun e member => (same e.1).symm.trans (get?_eq_some_iff.mpr member)⟩

theorem agrees_self [DecidableEq α] (t : Table κ α) : t.agrees t := agrees_iff.mpr fun _ => rfl

end Depot.Table
