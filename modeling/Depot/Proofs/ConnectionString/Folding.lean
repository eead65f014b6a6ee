import Depot.Proofs.ConnectionString.Builders
import Depot.Proofs.ConnectionString.Equality

namespace Depot.ConnectionString

open Connection

/-- The keys of some pairs in lower case, in the order in which they first occur. -/
def folds (pairs : List (String × String)) : List String := (pairs.map fun pair => Text.lower pair.1).eraseDups

def firstSpelling (pairs : List (String × String)) (fold : String) : Option String :=
  (pairs.find? fun pair => Text.lower pair.1 = fold).map Prod.fst

def lastValue (pairs : List (String × String)) (fold : String) : Option String :=
  (pairs.reverse.find? fun pair => Text.lower pair.1 = fold).map Prod.snd

/-- The entries have one for each key of the pairs, where the key first occurs and as it is first spelled, with the
value that it has last. -/
structure Merges (pairs entries : List (String × String)) : Prop where
  order : (entries.map fun e => Text.lower e.1) = folds pairs
  spelling : ∀ e ∈ entries, firstSpelling pairs (Text.lower e.1) = some e.1
  value : ∀ e ∈ entries, lastValue pairs (Text.lower e.1) = some e.2

/-- What stands in some entries under a key in any letter case. -/
def valueIn (entries : List (String × String)) (key : String) : Option String :=
  (entries.find? fun e => Text.lower e.1 = Text.lower key).map Prod.snd

/-- Every way of reading a connection string agrees with its entries, no two of which have the same key in whatever
letter case. -/
structure ReadsAs (cs : ConnectionString) (entries : List (String × String)) : Prop where
  distinct : (entries.map fun e => Text.lower e.1).Nodup
  parameters : cs.parameters = entries
  keys : cs.keys = entries.map Prod.fst
  size : cs.size = entries.length
  get? : ∀ key, cs.get? key = valueIn entries key
  contains : ∀ key, cs.contains key = (valueIn entries key).isSome
  item : ∀ key, cs.item key = (valueIn entries key).elim (.error (.raised .key key)) .ok
  require : ∀ key critical nonEmpty, cs.require key critical nonEmpty =
    match valueIn entries key with
    | none => .error (.missingParameter key critical (some cs.scheme))
    | some value => if nonEmpty ∧ value = "" then .error (.emptyParameter key critical) else .ok value

/-- The value of the entry of a key in any letter case is replaced, and without such an entry one is added. -/
def overwritten (key value : String) (entries : List (String × String)) : List (String × String) :=
  if ∃ e ∈ entries, Text.lower e.1 = Text.lower key then
    entries.map fun e => if Text.lower e.1 = Text.lower key then (e.1, value) else e
  else entries ++ [(key, value)]

/-- The second connection string is the first with one parameter set: no other value has changed, and no other entry
has moved. -/
structure Sets (key value : String) (cs next : ConnectionString) : Prop where
  scheme : next.scheme = cs.scheme
  native : next.native = none
  reads : ReadsAs next (overwritten key value cs.parameters)
  get? : ∀ other, next.get? other = if Text.lower key = Text.lower other then some value else cs.get? other

theorem addParameter_eq (table : Table String Parameter) (pair : String × String) :
    addParameter table pair = table.put (Text.lower pair.1)
      ⟨((table.get? (Text.lower pair.1)).map Parameter.key).getD pair.1, pair.2⟩ := by
  unfold addParameter
  cases found : table.get? (Text.lower pair.1) <;> simp only [found, Option.map_none, Option.map_some,
    Option.getD_none, Option.getD_some]

theorem foldPairs_concat (pairs : List (String × String)) (pair : String × String) :
    foldPairs (pairs ++ [pair]) = addParameter (foldPairs pairs) pair :=
  List.foldl_concat ..

theorem map_value_addParameter (table : Table String Parameter) (pair : String × String) :
    (addParameter table pair).map Parameter.value =
      (table.map Parameter.value).put (Text.lower pair.1) pair.2 := by
  rw [addParameter_eq, Table.map_put]

/-- The values of a folded list are those of the list itself, each under its key in lower case. -/
theorem map_value_foldPairs (pairs : List (String × String)) :
    (foldPairs pairs).map Parameter.value = .ofList (pairs.map fun pair => (Text.lower pair.1, pair.2)) := by
  induction pairs using List.reverseRecOn with
  | nil => rfl
  | append_singleton pairs pair ih =>
    rw [foldPairs_concat, map_value_addParameter, ih, List.map_append, List.map_singleton, Table.ofList_concat]

theorem keys_foldPairs (pairs : List (String × String)) : (foldPairs pairs).keys = folds pairs := by
  rw [← Table.keys_map Parameter.value, map_value_foldPairs, Table.keys_ofList, List.map_map]
  rfl

theorem value_foldPairs (pairs : List (String × String)) (fold : String) :
    ((foldPairs pairs).get? fold).map Parameter.value = lastValue pairs fold := by
  rw [← Table.get?_map, map_value_foldPairs, Table.get?_ofList, ← List.map_reverse, List.find?_map, Option.map_map]
  rfl

theorem key_foldPairs (pairs : List (String × String)) (fold : String) :
    ((foldPairs pairs).get? fold).map Parameter.key = firstSpelling pairs fold := by
  induction pairs using List.reverseRecOn with
  | nil => rfl
  | append_singleton pairs pair ih =>
    rw [foldPairs_concat, addParameter_eq, Table.get?_put, firstSpelling, List.find?_append, Option.map_or]
    change _ = (firstSpelling pairs fold).or _
    by_cases same : Text.lower pair.1 = fold
    · rw [if_pos same, same, ih, List.find?_singleton, if_pos (decide_eq_true same)]
      cases firstSpelling pairs fold <;> rfl
    · rw [if_neg same, ih, List.find?_singleton, if_neg (by simpa using same), Option.map_none, Option.or_none]

theorem keys_eq_folds {table : Table String Parameter} (folded : Folded table) :
    table.keys = (spelledPairs table).map fun e => Text.lower e.1 := by
  rw [spelledPairs, Table.values, List.map_map, List.map_map]
  exact List.map_congr_left folded

theorem get?_of_mem_spelledPairs {table : Table String Parameter} (folded : Folded table) {e : String × String}
    (member : e ∈ spelledPairs table) : table.get? (Text.lower e.1) = some ⟨e.1, e.2⟩ := by
  obtain ⟨parameter, value, rfl⟩ := List.mem_map.mp member
  obtain ⟨place, entry⟩ := Table.mem_values.mp value
  obtain rfl : place = Text.lower parameter.key := folded _ entry
  exact Table.get?_eq_some_iff.mpr entry

theorem merges_foldPairs (pairs : List (String × String)) : Merges pairs (spelledPairs (foldPairs pairs)) := by
  have folded := folded_foldPairs pairs
  refine ⟨?_, fun e member => ?_, fun e member => ?_⟩
  · rw [← keys_eq_folds folded, keys_foldPairs]
  · rw [← key_foldPairs, get?_of_mem_spelledPairs folded member, Option.map_some]
  · rw [← value_foldPairs, get?_of_mem_spelledPairs folded member, Option.map_some]

theorem readsAs_parameters {cs : ConnectionString} (folded : Folded cs.folded) : ReadsAs cs cs.parameters := by
  have answer (key : String) : cs.get? key = valueIn cs.parameters key := by
    unfold valueIn
    cases found : cs.parameters.find? fun e => Text.lower e.1 = Text.lower key with
    | none =>
      have absent : ∀ e ∈ cs.parameters, Text.lower e.1 ≠ Text.lower key := by simpa using found
      exact (get?_eq_none_iff folded).mpr (List.forall_mem_map.mpr absent)
    | some e =>
      have same : Text.lower e.1 = Text.lower key := by simpa using List.find?_some found
      rw [ConnectionString.get?, ← same]
      exact get?_of_mem_parameters folded (List.mem_of_find?_eq_some found)
  refine ⟨?_, rfl, rfl, ?_, answer, fun key => ?_, fun key => ?_, fun key critical nonEmpty => ?_⟩
  · have distinct := cs.folded.distinct
    rw [← Table.keys, keys_folded folded, ConnectionString.keys, List.map_map] at distinct
    exact distinct
  · simp only [ConnectionString.size, Table.size, ConnectionString.parameters, spelledPairs, Table.values,
      List.length_map]
  · rw [ConnectionString.contains, Table.contains_eq_isSome, ← answer, ConnectionString.get?, Option.isSome_map]
  · rw [ConnectionString.item, answer]
    cases valueIn cs.parameters key <;> rfl
  · rw [ConnectionString.require, answer]
    cases valueIn cs.parameters key with
    | none => rfl
    | some value => simp

theorem spelledPairs_addParameter {table : Table String Parameter} (folded : Folded table) (key value : String) :
    spelledPairs (addParameter table (key, value)) = overwritten key value (spelledPairs table) := by
  have spelled (table : Table String Parameter) :
      spelledPairs table = table.entries.map fun e => (e.2.key, e.2.value) := by
    rw [spelledPairs, Table.values, List.map_map]
    rfl
  have there : Text.lower key ∈ table.keys ↔ ∃ e ∈ spelledPairs table, Text.lower e.1 = Text.lower key := by
    rw [keys_eq_folds folded, List.mem_map]
  unfold overwritten
  split
  · rename_i present
    obtain ⟨earlier, entry⟩ := Table.mem_keys.mp (there.mpr present)
    have found := Table.get?_eq_some_iff.mpr entry
    rw [addParameter_eq, spelled, Table.entries_put_of_mem (there.mpr present), found, spelled, List.map_map,
      List.map_map]
    refine List.map_congr_left fun e member => ?_
    rw [Function.comp_apply, Function.comp_apply, ← folded e member]
    by_cases same : e.1 = Text.lower key
    · obtain rfl : e.2 = earlier := Table.value_unique member (same ▸ entry)
      rw [if_pos same, if_pos same, Option.map_some, Option.getD_some]
    · rw [if_neg same, if_neg same]
  · rename_i absent
    have fresh : Text.lower key ∉ table.keys := mt there.mp absent
    have added : addParameter table (key, value) = table.put (Text.lower key) ⟨key, value⟩ :=
      addParameter_of_fresh fresh
    rw [added, spelled, Table.entries_put_of_not_mem fresh, List.map_append, ← spelled, List.map_singleton]

/-- A connection string with one parameter more, or with another value for one that it has. -/
def adding (key value : String) (cs : ConnectionString) : ConnectionString :=
  ⟨cs.scheme, none, addParameter cs.folded (key, value), write cs.scheme (overwritten key value cs.parameters) none⟩

section
variable {cs : ConnectionString} {key value : String}

theorem ofParts_parameters (folded : Folded cs.folded) (text : Option String) :
    ofParts cs.scheme cs.parameters cs.native text = { cs with text := text.getD cs.render } := by
  unfold ofParts render
  rw [parameters, foldPairs_spelledPairs folded]

theorem ofParts_concat (folded : Folded cs.folded) :
    ofParts cs.scheme (cs.parameters ++ [(key, value)]) none none = cs.adding key value := by
  rw [ofParts, foldPairs_concat, parameters, foldPairs_spelledPairs folded, spelledPairs_addParameter folded]
  rfl

/-- The key of a parameter is checked, and nothing else can fail. -/
theorem withParameter_eq (folded : Folded cs.folded) (list : cs.native = none) (key value : String) :
    cs.withParameter key value = (checkKey key).map fun _ => cs.adding key value := by
  have plain : ¬ cs.isNative := by rw [isNative, list]; exact Bool.false_ne_true
  rw [ConnectionString.withParameter, if_neg plain, ofParts_concat folded]
  cases checkKey key <;> rfl

theorem withParameter_of_free (folded : Folded cs.folded) (list : cs.native = none) (free : Free key)
    (value : String) : cs.withParameter key value = .ok (cs.adding key value) := by
  rw [withParameter_eq folded list, checkKey_eq_ok_iff.mpr free]
  rfl

theorem withParameter_of_not_free (folded : Folded cs.folded) (list : cs.native = none) (refused : ¬ Free key)
    (value : String) : ∃ e, cs.withParameter key value = .error e := by
  rw [withParameter_eq folded list]
  cases checked : checkKey key with
  | ok => exact absurd (checkKey_eq_ok_iff.mp checked) refused
  | error e => exact ⟨e, rfl⟩

theorem folded_adding (folded : Folded cs.folded) (key value : String) : Folded (cs.adding key value).folded :=
  folded_addParameter folded (key, value)

theorem parameters_adding (folded : Folded cs.folded) (key value : String) :
    (cs.adding key value).parameters = overwritten key value cs.parameters :=
  spelledPairs_addParameter folded key value

theorem foldedValues_adding (key value : String) (cs : ConnectionString) :
    (cs.adding key value).foldedValues = cs.foldedValues.put (Text.lower key) value :=
  map_value_addParameter cs.folded (key, value)

theorem get?_adding (key value : String) (cs : ConnectionString) (other : String) :
    (cs.adding key value).get? other = if Text.lower key = Text.lower other then some value else cs.get? other := by
  rw [get?_eq_foldedValues, foldedValues_adding, Table.get?_put, get?_eq_foldedValues]

theorem adding_comm {other : String} (apart : Text.lower key ≠ Text.lower other) (value value' : String)
    (cs : ConnectionString) :
    ((cs.adding key value).adding other value').equals ((cs.adding other value').adding key value) := by
  refine equals_iff.mpr ⟨rfl, rfl, fun fold => ?_⟩
  simp only [foldedValues_adding, Table.get?_put]
  by_cases first : Text.lower key = fold
  · rw [if_pos first, if_neg (first ▸ apart.symm), if_pos first]
  · rw [if_neg first, if_neg first]

/-- A parameter that is set again under another spelling takes the second value and keeps the first spelling. -/
theorem adding_adding (folded : Folded cs.folded) {other : String} (same : Text.lower key = Text.lower other)
    (value value' : String) : (cs.adding key value).adding other value' = cs.adding key value' := by
  have table : addParameter (addParameter cs.folded (key, value)) (other, value') =
      addParameter cs.folded (key, value') := by
    rw [addParameter_eq, addParameter_eq, addParameter_eq]
    simp only [← same, Table.get?_put, if_true, Option.map_some, Option.getD_some, Table.put_put]
  have written : overwritten other value' (cs.adding key value).parameters = overwritten key value' cs.parameters := by
    rw [parameters, ← spelledPairs_addParameter (folded_adding folded key value)]
    refine (congrArg spelledPairs table).trans ?_
    exact spelledPairs_addParameter folded key value'
  unfold adding at written ⊢
  rw [written, table]

theorem sets_adding (folded : Folded cs.folded) (key value : String) : Sets key value cs (cs.adding key value) := by
  have reads := readsAs_parameters (folded_adding folded key value)
  rw [parameters_adding folded] at reads
  exact ⟨rfl, rfl, reads, get?_adding key value cs⟩

end

theorem forM_of_free {keys : List String} (free : ∀ key ∈ keys, Free key) : keys.forM checkKey = .ok () := by
  induction keys with
  | nil => rfl
  | cons key rest ih =>
    obtain ⟨atHead, inTail⟩ := List.forall_mem_cons.mp free
    change (checkKey key >>= fun _ => rest.forM checkKey) = .ok ()
    rw [checkKey_eq_ok_iff.mpr atHead, ih inTail]
    rfl

/-- What is built from the entries of a connection string is the string again. -/
theorem build_parameters {cs : ConnectionString} (folded : Folded cs.folded) (list : cs.native = none)
    (nonempty : cs.scheme ≠ "") (free : ∀ key ∈ cs.keys, Free key) :
    build cs.scheme (.ofList cs.parameters) = .ok { cs with text := cs.render } := by
  have distinct : cs.keys.Nodup := by
    have apart := cs.folded.distinct
    rw [← Table.keys, keys_folded folded] at apart
    exact .of_map _ apart
  have entries : (Table.ofList cs.parameters).entries = cs.parameters := Table.entries_putAll_of_fresh distinct
  have given : (Table.ofList cs.parameters).keys.forM checkKey = .ok () := by
    rw [Table.keys, entries]
    exact forM_of_free free
  have again : ofParts cs.scheme cs.parameters none none = { cs with text := cs.render } := by
    refine Eq.trans ?_ (ofParts_parameters folded none)
    rw [list]
  rw [build, checkScheme_eq_ok_iff.mpr nonempty, given, entries, again]
  rfl

/-- A connection string is its pairs with every repeated key merged, in whatever way it is read; made again of its
own entries it is the same; and parameters that are set change nothing but themselves, so that those of different
keys can be set in any order, and of those of one key the last one counts. -/
theorem ofParts_merges {scheme : String} {pairs : List (String × String)} {native text : Option String}
    {cs : ConnectionString} (made : ofParts scheme pairs native text = cs) :
    (Merges pairs cs.parameters ∧ ReadsAs cs cs.parameters) ∧
      (∀ text, ofParts cs.scheme cs.parameters cs.native text = { cs with text := text.getD cs.render }) ∧
      (native = none → scheme ≠ "" → (∀ key ∈ cs.keys, Free key) →
        build scheme (.ofList cs.parameters) = .ok { cs with text := cs.render }) ∧
      (native = none → ∀ key value, ¬ Free key → ∃ e, cs.withParameter key value = .error e) ∧
      (native = none → ∀ key value, Free key →
        (∃ next, cs.withParameter key value = .ok next ∧ Sets key value cs next) ∧
        ∀ other value', Free other →
          (Text.lower key ≠ Text.lower other →
            ∃ a b, (cs.withParameter key value >>= withParameter other value') = .ok a ∧
              (cs.withParameter other value' >>= withParameter key value) = .ok b ∧ a.equals b) ∧
          (Text.lower key = Text.lower other →
            (cs.withParameter key value >>= withParameter other value') = cs.withParameter key value')) := by
  subst made
  have folded : Folded (ofParts scheme pairs native text).folded := folded_foldPairs pairs
  refine ⟨⟨merges_foldPairs pairs, readsAs_parameters folded⟩, ofParts_parameters folded,
    build_parameters folded, ?refused, ?set⟩
  case refused =>
    intro list key value refused
    exact withParameter_of_not_free folded list refused value
  case set =>
    intro list key value free
    have both {first second : String} (value value' : String) (free : Free first) (freeToo : Free second) :
        ((ofParts scheme pairs native text).withParameter first value >>= withParameter second value') =
          .ok (((ofParts scheme pairs native text).adding first value).adding second value') := by
      rw [withParameter_of_free folded list free]
      exact withParameter_of_free (folded_adding folded first value) rfl freeToo value'
    refine ⟨⟨_, withParameter_of_free folded list free value, sets_adding folded key value⟩, ?_⟩
    intro other value' freeToo
    constructor
    · intro apart
      exact ⟨_, _, both value value' free freeToo, both value' value freeToo free, adding_comm apart value value' _⟩
    · intro same
      rw [both value value' free freeToo, adding_adding folded same, withParameter_of_free folded list free]

/-- A key in three spellings, and a second key that is set before it or after it. -/
theorem ofParts_merges_respelled :
    ∃ cs next a b, ofParts "p" [("Key", "1"), ("x", "2"), ("KEY", "3")] none none = cs ∧
      cs.parameters = [("Key", "3"), ("x", "2")] ∧ cs.withParameter "kEY" "4" = .ok next ∧
      next.parameters = [("Key", "4"), ("x", "2")] ∧
      (cs.withParameter "kEY" "4" >>= withParameter "new" "5") = .ok a ∧
      (cs.withParameter "new" "5" >>= withParameter "kEY" "4") = .ok b ∧ a.equals b ∧
      (cs.withParameter "kEY" "4" >>= withParameter "KeY" "6") = cs.withParameter "kEY" "6" := by
  let cs := ofParts "p" [("Key", "1"), ("x", "2"), ("KEY", "3")] none none
  have made : ofParts "p" [("Key", "1"), ("x", "2"), ("KEY", "3")] none none = cs := rfl
  obtain ⟨-, -, -, -, set⟩ := ofParts_merges made
  obtain ⟨⟨next, first, sets⟩, later⟩ := set rfl "kEY" "4" ⟨by decide, by decide⟩
  obtain ⟨a, b, before, after, same⟩ := (later "new" "5" ⟨by decide, by decide⟩).1 (by decide)
  have again := (later "KeY" "6" ⟨by decide, by decide⟩).2 (by decide)
  exact ⟨cs, next, a, b, made, by decide, first, sets.reads.parameters.trans (by decide), before, after, same, again⟩

end Depot.ConnectionString
