import Depot.KeyValue
import Depot.Proofs.Blobs.Refinement
import Mathlib.Data.Set.Card

namespace Depot.Blobs

/-- The bytes last written under a key and not deleted since, when calls are gone through from the last one back. -/
def lastWritten : List Call → String → Option Bytes
  | [], _ => none
  | .write written data :: earlier, key => if written = key then some data else lastWritten earlier key
  | .delete keys :: earlier, key => if key ∈ keys then none else lastWritten earlier key
  | .read _ :: earlier, key => lastWritten earlier key
  | .contains _ :: earlier, key => lastWritten earlier key
  | .list _ :: earlier, key => lastWritten earlier key

/-- What stands under each key after some calls. -/
def standing (calls : List Call) : String → Option Bytes := lastWritten calls.reverse

section

variable {τ : Type}

/-- The state after some calls. -/
def stateAfter (b : Blobs τ) (calls : List Call) (t : τ) : τ := calls.foldl (fun t call => (call.on b t).2) t

/-- The same call to a flat store, which can only be asked for a value to know whether it has one. -/
def Call.onPairs (p : KeyValue τ) : Call → τ → τ
  | .write key data, t => (p.put key (.bytes data) t).2
  | .read key, t => (p.get key t).2
  | .contains _, t => t
  | .delete keys, t => (p.delete keys t).2
  | .list start, t => (p.list start t).2

def pairsAfter (p : KeyValue τ) (calls : List Call) (t : τ) : τ := calls.foldl (fun t call => call.onPairs p t) t

end

/-- The code points of a text. -/
def codes (text : String) : List Nat := text.toList.map Char.toNat

/-- The keys of a map that begin with a text if one is given, in ascending order. -/
structure Lists (held : String → Option Bytes) (start : Option String) (keys : List String) : Prop where
  ascending : keys.Pairwise fun a b => codes a < codes b
  mem : ∀ key, key ∈ keys ↔ (held key).isSome ∧ ∀ text, start = some text → text.toList <+: key.toList

/-- A deletion is done key after key. Keys that are repeated, or in another order, make no difference, and those that
are missing do nothing. -/
structure DeletesKeys (held : String → Option Bytes) (delete : List String → Action Store (Outcome Unit)) (s : Store) :
    Prop where
  done : ∀ keys, ∃ later, delete keys s = (.ok (.ok ()), later)
  one_by_one : ∀ keys more later, delete keys s = (.ok (.ok ()), later) → delete (keys ++ more) s = delete more later
  alike : ∀ keys keys', (∀ key, key ∈ keys ↔ key ∈ keys') → delete keys s = delete keys' s
  missing : ∀ keys, (∀ key ∈ keys, held key = none) → delete keys s = (.ok (.ok ()), s)

/-- A store of blobs answers as a map. -/
structure AnswersAs (held : String → Option Bytes) (s : Store) : Prop where
  write : ∀ key data, ∃ later, memory.write key (.bytes data) s = (.ok (.ok ()), later)
  read : ∀ key, memory.read key s = (.ok ((held key).elim (.error (.blobNotFound key)) .ok), s)
  contains : ∀ key, memory.contains key s = (.ok (.ok (held key).isSome), s)
  delete : DeletesKeys held memory.delete s
  list : ∀ start, ∃ keys, memory.list start s = (.ok (.ok keys), s) ∧ Lists held start keys
  size : s.size = {key | (held key).isSome}.ncard

/-- A flat store answers as a map, in which a missing key has no value. -/
structure PairsAnswerAs (held : String → Option Bytes) (s : Store) : Prop where
  put : ∀ key data, ∃ later, KeyValue.memory.put key (.bytes data) s = (.ok (.ok ()), later)
  get : ∀ key, KeyValue.memory.get key s = (.ok (.ok (held key)), s)
  delete : DeletesKeys held KeyValue.memory.delete s
  list : ∀ start, ∃ keys, KeyValue.memory.list start s = (.ok (.ok keys), s) ∧ Lists held start keys

theorem codes_lt_iff {a b : String} : codes a < codes b ↔ a < b := by
  have lists (l l' : List Char) : l.map Char.toNat < l'.map Char.toNat ↔ l < l' := by
    induction l generalizing l' with
    | nil => cases l' <;> simp
    | cons c l ih =>
      cases l' with
      | nil => simp
      | cons d l' =>
        have first : c.toNat < d.toNat ↔ c < d := Iff.rfl
        rw [List.map_cons, List.map_cons, List.cons_lt_cons_iff, List.cons_lt_cons_iff, ih, first, Char.toNat_inj]
  exact lists a.toList b.toList

theorem lists_list (s : Store) (start : Option String) : Lists s.read? start (s.list (start.getD "")) where
  ascending := by
    have distinct : (s.list (start.getD "")).Nodup :=
      (List.mergeSort_perm _ _).nodup_iff.mpr (s.nodup_keysUnder _)
    refine (Store.ordered_sorted _).imp₂ (fun a b ordered apart => codes_lt_iff.mpr ?_) distinct
    by_contra later
    exact apart (String.le_antisymm ordered (String.not_lt.mp later))
  mem key := by
    rw [Store.list, Store.sorted, List.mem_mergeSort, Store.mem_keysUnder]
    cases start with
    | none => simp
    | some text => simp

theorem size_eq_ncard (s : Store) : s.size = {key | (s.read? key).isSome}.ncard := by
  have there : {key | (s.read? key).isSome} = (s.entries.keys.toFinset : Set String) := by
    ext key
    rw [Set.mem_ofPred_eq, Finset.mem_coe, List.mem_toFinset, Store.read?, ← not_iff_not,
      Option.not_isSome_iff_eq_none, Table.get?_eq_none_iff]
  have distinct : s.entries.keys.Nodup := s.entries.distinct
  rw [there, Set.ncard_coe_finset, List.toFinset_card_of_nodup distinct]
  exact (List.length_map _).symm

theorem deletesKeys_delete (s : Store) :
    DeletesKeys s.read? (fun keys => .change fun s => (.ok (), s.delete keys)) s where
  done keys := ⟨s.delete keys, rfl⟩
  one_by_one keys more later deleted := by
    cases deleted
    have both : s.delete (keys ++ more) = (s.delete keys).delete more :=
      congrArg Store.mk (Table.eraseAll_eraseAll keys more s.entries).symm
    simp only [Action.change, both]
  alike keys keys' same := by
    have equal : s.delete keys = s.delete keys' := congrArg Store.mk (Table.eraseAll_congr same s.entries)
    simp only [Action.change, equal]
  missing keys absent := by
    have kept : s.delete keys = s := congrArg Store.mk (Table.eraseAll_of_absent absent)
    simp only [Action.change, kept]

theorem answersAs_read? (s : Store) : AnswersAs s.read? s where
  write key data := ⟨s.write key data, rfl⟩
  read key := by
    rw [← readFrom_eq]
    rfl
  contains key := by
    rw [← Store.contains_eq_isSome]
    rfl
  delete := deletesKeys_delete s
  list start := ⟨_, rfl, lists_list s start⟩
  size := size_eq_ncard s

theorem pairsAnswerAs_read? (s : Store) : PairsAnswerAs s.read? s where
  put key data := ⟨s.write key data, rfl⟩
  get _ := rfl
  delete := deletesKeys_delete s
  list start := ⟨_, rfl, lists_list s start⟩

theorem read?_write_of_standing {s : Store} {earlier : List Call} (held : s.read? = lastWritten earlier) (key : String)
    (data : Bytes) : (s.write key data).read? = lastWritten (.write key data :: earlier) := by
  funext key'
  rw [Store.read?_write, held, lastWritten]
  by_cases same : key = key'
  · rw [if_pos same, ← same, Function.update_self]
  · rw [if_neg same, Function.update_of_ne (Ne.symm same)]

theorem read?_delete_of_standing {s : Store} {earlier : List Call} (held : s.read? = lastWritten earlier)
    (keys : List String) : (s.delete keys).read? = lastWritten (.delete keys :: earlier) := by
  funext key
  rw [Store.read?_delete, held]
  rfl

theorem read?_on {s : Store} {earlier : List Call} (held : s.read? = lastWritten earlier) (call : Call) :
    (call.on memory s).2.read? = lastWritten (call :: earlier) := by
  cases call with
  | write key data => exact read?_write_of_standing held key data
  | delete keys => exact read?_delete_of_standing held keys
  | read | contains | list => exact held

theorem read?_onPairs {s : Store} {earlier : List Call} (held : s.read? = lastWritten earlier) (call : Call) :
    (call.onPairs KeyValue.memory s).read? = lastWritten (call :: earlier) := by
  cases call with
  | write key data => exact read?_write_of_standing held key data
  | delete keys => exact read?_delete_of_standing held keys
  | read | contains | list => exact held

theorem read?_stateAfter (calls : List Call) : (stateAfter memory calls {}).read? = standing calls := by
  induction calls using List.reverseRecOn with
  | nil => rfl
  | append_singleton calls call ih =>
    rw [stateAfter, List.foldl_concat, standing, List.reverse_concat]
    exact read?_on ih call

theorem read?_pairsAfter (calls : List Call) : (pairsAfter KeyValue.memory calls {}).read? = standing calls := by
  induction calls using List.reverseRecOn with
  | nil => rfl
  | append_singleton calls call ih =>
    rw [pairsAfter, List.foldl_concat, standing, List.reverse_concat]
    exact read?_onPairs ih call

/-- After any calls, a store of blobs and a flat store that were asked the same answer by the same map, which holds
what was last written and not deleted since. -/
theorem stores_answer_as_maps (calls : List Call) :
    AnswersAs (standing calls) (stateAfter memory calls {}) ∧
      PairsAnswerAs (standing calls) (pairsAfter KeyValue.memory calls {}) :=
  ⟨read?_stateAfter calls ▸ answersAs_read? _, read?_pairsAfter calls ▸ pairsAnswerAs_read? _⟩

/-- A key that is deleted and written again holds the new bytes, be they none at all. -/
example : standing [.write "a" [1], .delete ["a", "b", "a"], .write "a" [], .read "a"] "a" = some [] := by rfl

end Depot.Blobs
