import Depot.Blobs
import Depot.Proofs.Action
import Depot.Proofs.Table
import Mathlib.Logic.Function.Basic

namespace Depot

/-- The map without some keys. -/
def withoutKeys (map : String → Option Bytes) (keys : List String) : String → Option Bytes :=
  fun key => if key ∈ keys then none else map key

theorem withoutKeys_of_not_mem {map : String → Option Bytes} {keys : List String} {key : String}
    (kept : key ∉ keys) : withoutKeys map keys key = map key := if_neg kept

theorem withoutKeys_of_mem {map : String → Option Bytes} {keys : List String} {key : String}
    (gone : key ∈ keys) : withoutKeys map keys key = none := if_pos gone

theorem withoutKeys_nil (map : String → Option Bytes) : withoutKeys map [] = map := by
  funext key
  exact withoutKeys_of_not_mem List.not_mem_nil

namespace Blobs

/-- A store whose state is seen as the map `held`. In a faultless state no operation has failed so far.
Contents are handed over as bytes; a text is refused before any store sees it. -/
structure Lawful {τ : Type} (b : Blobs τ) (held : τ → String → Option Bytes) (faultless : τ → Prop) :
    Prop where
  write : ∀ key data t, ∃ result t', b.write key (.bytes data) t = (.ok result, t') ∧
    (result = .ok () ∧ held t' = Function.update (held t) key (some data) ∧ (faultless t' → faultless t) ∨
      (∃ e, result = .error e) ∧ held t' = held t ∧ ¬ faultless t')
  read : ∀ key t, ∃ result t', b.read key t = (.ok result, t') ∧ held t' = held t ∧
    ((∃ data, result = .ok data ∧ held t key = some data) ∧ (faultless t' → faultless t) ∨
      (∃ e, result = .error e) ∧ (faultless t' → faultless t ∧ held t key = none))
  delete : ∀ keys t, ∃ result t', b.delete keys t = (.ok result, t') ∧
    (result = .ok () ∧ held t' = withoutKeys (held t) keys ∧ (faultless t' → faultless t) ∨
      (∃ e, result = .error e) ∧ held t' = held t ∧ ¬ faultless t')

/-- A store in working order. -/
def Works {τ : Type} (b : Blobs τ) (held : τ → String → Option Bytes) : Prop :=
  b.Lawful held fun _ => True

variable {τ : Type} {b : Blobs τ} {held : τ → String → Option Bytes}

theorem Works.write (works : b.Works held) (key : String) (data : Bytes) (t : τ) :
    ∃ t', b.write key (.bytes data) t = (.ok (.ok ()), t') ∧
      held t' = Function.update (held t) key (some data) := by
  obtain ⟨result, t', run, ⟨rfl, kept, _⟩ | ⟨_, _, failed⟩⟩ := Lawful.write works key data t
  · exact ⟨t', run, kept⟩
  · exact absurd trivial failed

theorem Works.read (works : b.Works held) {key : String} {data : Bytes} {t : τ}
    (there : held t key = some data) :
    ∃ t', b.read key t = (.ok (.ok data), t') ∧ held t' = held t := by
  obtain ⟨result, t', run, same, ⟨⟨found, rfl, inside⟩, _⟩ | ⟨_, absent⟩⟩ := Lawful.read works key t
  · rw [there] at inside
    cases inside
    exact ⟨t', run, same⟩
  · rw [(absent trivial).2] at there
    cases there

end Blobs

theorem Store.read?_write (s : Store) (key key' : String) (data : Bytes) :
    (s.write key data).read? key' = Function.update s.read? key (some data) key' := by
  rw [read?, write, Table.get?_put]
  by_cases same : key = key'
  · subst same
    rw [if_pos rfl, Function.update_self]
  · rw [if_neg same, Function.update_of_ne (Ne.symm same)]
    rfl

theorem Store.read?_delete (s : Store) (keys : List String) (key : String) :
    (s.delete keys).read? key = withoutKeys s.read? keys key := by
  unfold read? delete withoutKeys
  rw [Table.get?_eraseAll]

theorem Store.contains_eq_isSome (s : Store) (key : String) : s.contains key = (s.read? key).isSome :=
  Table.contains_eq_isSome s.entries key

theorem Store.nodup_keysUnder (s : Store) (start : String) : (s.keysUnder start).Nodup :=
  s.entries.distinct.filter _

theorem Store.mem_keysUnder {s : Store} {start key : String} :
    key ∈ s.keysUnder start ↔ (s.read? key).isSome ∧ start.toList <+: key.toList := by
  have there : key ∈ s.entries.keys ↔ (s.read? key).isSome := by
    rw [← not_iff_not, Option.not_isSome_iff_eq_none]
    exact Table.get?_eq_none_iff.symm
  rw [keysUnder, List.mem_filter, there, List.isPrefixOf_iff_prefix]

/-- The store in memory is in working order. -/
theorem Blobs.memory_works : Blobs.memory.Works Store.read? where
  write key data s :=
    ⟨.ok (), s.write key data, rfl, Or.inl ⟨rfl, funext fun key' => s.read?_write key key' data, id⟩⟩
  read key s := by
    refine ⟨readFrom s key, s, rfl, rfl, ?_⟩
    unfold readFrom
    cases there : s.read? key with
    | none => exact Or.inr ⟨⟨_, rfl⟩, fun _ => ⟨trivial, rfl⟩⟩
    | some data => exact Or.inl ⟨⟨data, rfl, rfl⟩, id⟩
  delete keys s :=
    ⟨.ok (), s.delete keys, rfl, Or.inl ⟨rfl, funext fun key => s.read?_delete keys key, id⟩⟩

end Depot
