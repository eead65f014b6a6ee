namespace Depot

universe u v

structure Table (κ : Type u) (α : Type v) where
  entries : List (κ × α)
  distinct : (entries.map Prod.fst).Nodup

namespace Table

variable {κ : Type u} {α : Type v}

theorem eq_of_entries {t s : Table κ α} (same : t.entries = s.entries) : t = s := by
  cases t; cases s; cases same; rfl

def empty : Table κ α := ⟨[], List.nodup_nil⟩

instance : Inhabited (Table κ α) := ⟨empty⟩

def keys (t : Table κ α) : List κ := t.entries.map Prod.fst

def values (t : Table κ α) : List α := t.entries.map Prod.snd

def size (t : Table κ α) : Nat := t.entries.length

def isEmpty (t : Table κ α) : Bool := t.entries.isEmpty

def map {β : Type v} (f : α → β) (t : Table κ α) : Table κ β :=
  ⟨t.entries.map fun e => (e.1, f e.2), by
    have h := t.distinct
    simpa [Function.comp_def] using h⟩

@[simp] theorem entries_empty : (empty : Table κ α).entries = [] := rfl

theorem nodup_filter {p : κ × α → Bool} {l : List (κ × α)} (distinct : (l.map Prod.fst).Nodup) :
    ((l.filter p).map Prod.fst).Nodup :=
  distinct.sublist (List.Sublist.map _ List.filter_sublist)

def filter (p : κ × α → Bool) (t : Table κ α) : Table κ α :=
  ⟨t.entries.filter p, nodup_filter t.distinct⟩

variable [DecidableEq κ]

/-- Replaces the entry of a key in place, or appends one. -/
def putIn (k : κ) (a : α) : List (κ × α) → List (κ × α)
  | [] => [(k, a)]
  | e :: rest => if e.1 = k then (e.1, a) :: rest else e :: putIn k a rest

theorem keys_putIn (k : κ) (a : α) (l : List (κ × α)) :
    (putIn k a l).map Prod.fst =
      if k ∈ l.map Prod.fst then l.map Prod.fst else l.map Prod.fst ++ [k] := by
  induction l with
  | nil => simp [putIn]
  | cons e rest ih =>
    by_cases same : e.1 = k
    · simp [putIn, same]
    · have other : k ≠ e.1 := fun h => same h.symm
      simp only [putIn, same, if_false, List.map_cons, ih, List.mem_cons, other, false_or]
      split <;> simp

theorem nodup_putIn {k : κ} {a : α} {l : List (κ × α)} (distinct : (l.map Prod.fst).Nodup) :
    ((putIn k a l).map Prod.fst).Nodup := by
  rw [keys_putIn]
  split
  · exact distinct
  · rename_i fresh
    rw [List.nodup_append]
    refine ⟨distinct, by simp, ?_⟩
    rintro x hx y hy rfl
    rw [List.mem_singleton] at hy
    exact fresh (hy ▸ hx)

def put (k : κ) (a : α) (t : Table κ α) : Table κ α :=
  ⟨putIn k a t.entries, nodup_putIn t.distinct⟩

def get? (t : Table κ α) (k : κ) : Option α :=
  (t.entries.find? fun e => e.1 = k).map Prod.snd

def contains (t : Table κ α) (k : κ) : Bool :=
  t.entries.any fun e => e.1 = k

def erase (k : κ) (t : Table κ α) : Table κ α :=
  t.filter fun e => e.1 ≠ k

/-- Erases every key of a list; keys that are absent or repeated do no harm. -/
def eraseAll (ks : List κ) (t : Table κ α) : Table κ α :=
  t.filter fun e => !ks.contains e.1

/-- Writes a key that is absent. -/
def ensure (k : κ) (a : α) (t : Table κ α) : Table κ α := if t.contains k then t else t.put k a

/-- Changes the value of a key that is present. -/
def alter (k : κ) (f : α → α) (t : Table κ α) : Table κ α :=
  match t.get? k with
  | some a => t.put k (f a)
  | none => t

/-- Writes the entries in order. -/
def putAll (entries : List (κ × α)) (t : Table κ α) : Table κ α :=
  entries.foldl (fun t e => t.put e.1 e.2) t

def ofList (entries : List (κ × α)) : Table κ α := empty.putAll entries

/-- The entries of the second table are written over the first. -/
def merge (t s : Table κ α) : Table κ α := t.putAll s.entries

/-- The same keys with the same values, in whatever order. -/
def agrees [DecidableEq α] (t s : Table κ α) : Bool :=
  t.size = s.size && t.entries.all fun e => s.get? e.1 = some e.2

@[simp] theorem get?_empty (k : κ) : (empty : Table κ α).get? k = none := rfl

theorem keys_put (k : κ) (a : α) (t : Table κ α) :
    (t.put k a).keys = if k ∈ t.keys then t.keys else t.keys ++ [k] :=
  keys_putIn k a t.entries

theorem find?_putIn (k k' : κ) (a : α) (l : List (κ × α)) :
    ((putIn k a l).find? fun e => e.1 = k').map Prod.snd =
      if k = k' then some a else (l.find? fun e => e.1 = k').map Prod.snd := by
  induction l with
  | nil => by_cases h : k = k' <;> simp [putIn, h]
  | cons e rest ih =>
    by_cases same : e.1 = k
    · by_cases h : k = k'
      · simp [putIn, same, h]
      · have : e.1 ≠ k' := fun h' => h (same.symm.trans h')
        simp [putIn, same, h]
    · by_cases h : e.1 = k'
      · have : k ≠ k' := fun h' => same (h.trans h'.symm)
        simp only [putIn, same, if_false, this]
        rw [List.find?_cons_of_pos (by simpa using h), List.find?_cons_of_pos (by simpa using h)]
      · simp only [putIn, same, if_false]
        rw [List.find?_cons_of_neg (by simpa using h), List.find?_cons_of_neg (by simpa using h), ih]

theorem get?_put (k k' : κ) (a : α) (t : Table κ α) :
    (t.put k a).get? k' = if k = k' then some a else t.get? k' :=
  find?_putIn k k' a t.entries

theorem contains_eq_isSome (t : Table κ α) (k : κ) : t.contains k = (t.get? k).isSome := by
  simp only [contains, get?, Option.isSome_map]
  induction t.entries with
  | nil => rfl
  | cons e rest ih =>
    by_cases h : e.1 = k
    · simp [h]
    · rw [List.any_cons, List.find?_cons_of_neg (by simpa using h), ← ih]
      simp [h]

end Table

instance {κ : Type u} {α : Type v} [DecidableEq κ] [DecidableEq α] : DecidableEq (Table κ α) :=
  fun t s =>
    if same : t.entries = s.entries then isTrue (Table.eq_of_entries same)
    else isFalse fun h => same (congrArg Table.entries h)

end Depot
