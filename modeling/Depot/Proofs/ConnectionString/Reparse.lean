import Depot.ConnectionString
import Depot.Proofs.Connection.RoundTrip
import Depot.Proofs.Table

namespace Depot.ConnectionString

open Connection

/-- Each parameter stands under the folded form of its own spelling. -/
def Folded (table : Table String Parameter) : Prop :=
  ∀ e ∈ table.entries, e.1 = Text.lower e.2.key

/-- What an added parameter can change: only the entry under its own folded key, whose spelling is that
of the parameter or an earlier one. -/
theorem mem_addParameter {table : Table String Parameter} {pair : String × String} {e : String × Parameter}
    (member : e ∈ (addParameter table pair).entries) :
    e ∈ table.entries ∨ (e.1 = Text.lower pair.1 ∧
      (e.2.key = pair.1 ∨ ∃ earlier, (e.1, earlier) ∈ table.entries ∧ earlier.key = e.2.key)) := by
  unfold addParameter at member
  cases found : table.get? (Text.lower pair.1) with
  | none =>
    simp only [found] at member
    rcases Table.mem_entries_put.mp member with rfl | ⟨old, _⟩
    · exact Or.inr ⟨rfl, Or.inl rfl⟩
    · exact Or.inl old
  | some earlier =>
    simp only [found] at member
    rcases Table.mem_entries_put.mp member with rfl | ⟨old, _⟩
    · exact Or.inr ⟨rfl, Or.inr ⟨earlier, Table.get?_eq_some_iff.mp found, rfl⟩⟩
    · exact Or.inl old

theorem addParameter_of_fresh {table : Table String Parameter} {pair : String × String}
    (fresh : Text.lower pair.1 ∉ table.keys) :
    addParameter table pair = table.put (Text.lower pair.1) ⟨pair.1, pair.2⟩ := by
  unfold addParameter
  simp only [Table.get?_eq_none_iff.mpr fresh]

theorem folded_addParameter {table : Table String Parameter} (folded : Folded table)
    (pair : String × String) : Folded (addParameter table pair) := by
  intro e member
  rcases mem_addParameter member with old | ⟨place, spelled | ⟨earlier, old, spelled⟩⟩
  · exact folded e old
  · rw [place, spelled]
  · exact (folded _ old).trans (congrArg Text.lower spelled)

theorem folded_foldPairs (pairs : List (String × String)) : Folded (foldPairs pairs) := by
  unfold foldPairs
  refine List.foldlRecOn pairs _ ?_ fun table folded pair _ => folded_addParameter folded pair
  simp [Folded]

/-- Every spelling is one of those that were given. -/
theorem spelling_foldPairs (valid : String → Prop) {pairs : List (String × String)}
    (given : ∀ pair ∈ pairs, valid pair.1) : ∀ e ∈ (foldPairs pairs).entries, valid e.2.key := by
  unfold foldPairs
  refine List.foldlRecOn pairs
    (motive := fun (table : Table String Parameter) => ∀ e ∈ table.entries, valid e.2.key) _ (by simp) ?_
  intro table spelled pair known e member
  rcases mem_addParameter member with old | ⟨_, same | ⟨earlier, old, same⟩⟩
  · exact spelled e old
  · exact same ▸ given pair known
  · exact same ▸ spelled _ old

theorem valid_of_spelledPairs (valid : String → Prop) {table : Table String Parameter}
    (spelled : ∀ e ∈ table.entries, valid e.2.key) : ∀ pair ∈ spelledPairs table, valid pair.1 := by
  intro pair member
  obtain ⟨p, value, rfl⟩ := List.mem_map.mp member
  obtain ⟨k, inside⟩ := Table.mem_values.mp value
  exact spelled _ inside

/-- Parameters under new keys are appended as they are. -/
theorem entries_foldl_addParameter {l : List (String × Parameter)} {table : Table String Parameter}
    (folded : ∀ e ∈ l, e.1 = Text.lower e.2.key) (distinct : (table.keys ++ l.map Prod.fst).Nodup) :
    ((l.map fun e => (e.2.key, e.2.value)).foldl addParameter table).entries = table.entries ++ l := by
  induction l generalizing table with
  | nil => simp
  | cons e rest ih =>
    obtain ⟨atHead, inTail⟩ := List.forall_mem_cons.mp folded
    rw [List.map_cons, List.nodup_append] at distinct
    have fresh : e.1 ∉ table.keys := fun member => distinct.2.2 _ member _ List.mem_cons_self rfl
    have added : addParameter table (e.2.key, e.2.value) = table.put e.1 e.2 := by
      rw [atHead] at fresh ⊢
      exact addParameter_of_fresh fresh
    have entries := Table.entries_put_of_not_mem fresh e.2
    have keys : (table.put e.1 e.2).keys = table.keys ++ [e.1] := by rw [Table.keys_put, if_neg fresh]
    rw [List.map_cons, List.foldl_cons, added, ih inTail, entries, List.append_assoc, List.singleton_append]
    rw [keys, List.append_assoc, List.singleton_append, List.nodup_append]
    exact distinct

/-- Folding what a folded table spells gives the table again, with the same order and spellings. -/
theorem foldPairs_spelledPairs {table : Table String Parameter} (folded : Folded table) :
    foldPairs (spelledPairs table) = table := by
  have spelled : spelledPairs table = table.entries.map fun e => (e.2.key, e.2.value) := by
    simp [spelledPairs, Table.values, Function.comp_def]
  refine Table.eq_of_entries ?_
  rw [foldPairs, spelled, entries_foldl_addParameter folded]
  · rfl
  · simpa [Table.keys] using table.distinct

theorem parse_eq_ok_iff {text : String} {cs : ConnectionString} :
    parse text = .ok cs ↔
      ∃ parts, Parts.read text = .ok parts ∧ ofParts parts.scheme parts.pairs parts.native (some text) = cs :=
  Outcome.map_eq_ok_iff

theorem equals_of_same {a b : ConnectionString} (scheme : a.scheme = b.scheme) (native : a.native = b.native)
    (folded : a.folded = b.folded) : a.equals b := by
  simp only [equals, foldedValues, scheme, native, folded, Table.agrees_self, decide_true, Bool.and_self]

theorem render_of_native {text : String} {cs : ConnectionString} (accepted : parse text = .ok cs)
    (own : cs.native ≠ none) : cs.render = text := by
  obtain ⟨parts, read, rfl⟩ := parse_eq_ok_iff.mp accepted
  rcases read_cases read with ⟨_, rfl⟩ | ⟨scheme, raw, nonempty, split, rfl⟩ | ⟨_, _, _, _, _, _, _, rfl⟩
  · rfl
  · have some_char : (String.ofList scheme).isEmpty = false := by
      simpa [String.isEmpty_eq_false_iff] using nonempty
    have whole := (eq_of_splitScheme? split).1
    simp only [render, ofParts, write, some_char, Bool.false_eq_true, if_false]
    rw [← String.toList_inj, whole]
    simp [separator, nativeMarker]
  · exact absurd rfl own

theorem parse_render_of_native {text : String} {cs : ConnectionString} (accepted : parse text = .ok cs)
    (own : cs.native ≠ none) : parse cs.render = .ok { cs with text := cs.render } := by
  have text_kept : cs.text = text := by
    obtain ⟨parts, _, rfl⟩ := parse_eq_ok_iff.mp accepted
    rfl
  rw [render_of_native accepted own, ← text_kept]
  rw [← text_kept] at accepted
  exact accepted

/-- What the parameters of an accepted text have to do with its written form. -/
theorem valid_of_parse {text : String} {cs : ConnectionString} (accepted : parse text = .ok cs)
    (list : cs.native = none) :
    cs.scheme ≠ "" ∧ ¬ separator <:+: cs.scheme.toList ∧ (∀ pair ∈ cs.parameters, isKey pair.1) ∧
      Folded cs.folded := by
  obtain ⟨parts, read, rfl⟩ := parse_eq_ok_iff.mp accepted
  obtain ⟨nonempty, clear, valid⟩ := valid_of_read read list
  have spelled := spelling_foldPairs (fun key => isKey key) valid
  exact ⟨nonempty, clear, valid_of_spelledPairs (fun key => isKey key) spelled, folded_foldPairs parts.pairs⟩

/-- A list of valid parameters is read back, whatever its values hold, unless it begins with the marker. -/
theorem parse_render_of_valid {cs : ConnectionString} (list : cs.native = none) (nonempty : cs.scheme ≠ "")
    (clear : ¬ separator <:+: cs.scheme.toList) (valid : ∀ pair ∈ cs.parameters, isKey pair.1)
    (folded : Folded cs.folded) (first : cs.keys.head? ≠ some nativeKey) :
    parse cs.render = .ok { cs with text := cs.render } := by
  have unmarked : ¬ nativeMarker <+: writtenBody cs.parameters := by
    intro marked
    obtain ⟨pair, atHead, native⟩ := (nativeMarker_prefix_writtenBody valid).mp marked
    exact first (by rw [keys, List.head?_map, atHead, Option.map_some, native])
  have read := read_write_parameters nonempty clear valid unmarked
  rw [parse_eq_ok_iff]
  refine ⟨_, by rw [render, list, read], ?_⟩
  unfold ofParts
  rw [parameters, foldPairs_spelledPairs folded]
  simp only [Option.getD_some, list]

theorem parse_render_of_parameters {text : String} {cs : ConnectionString} (accepted : parse text = .ok cs)
    (list : cs.native = none) (first : cs.keys.head? ≠ some nativeKey) :
    parse cs.render = .ok { cs with text := cs.render } := by
  obtain ⟨nonempty, clear, valid, folded⟩ := valid_of_parse accepted list
  exact parse_render_of_valid list nonempty clear valid folded first

/-- A list that begins with the marker's key is read as a string in a service's own form. -/
theorem native_of_parse_render {text : String} {cs : ConnectionString} (accepted : parse text = .ok cs)
    (list : cs.native = none) (first : cs.keys.head? = some nativeKey) :
    ∃ again, parse cs.render = .ok again ∧ again.native ≠ none := by
  obtain ⟨nonempty, clear, valid, _⟩ := valid_of_parse accepted list
  rw [keys, List.head?_map, Option.map_eq_some_iff] at first
  have marked := (nativeMarker_prefix_writtenBody valid).mpr first
  obtain ⟨raw, read⟩ := read_write_native nonempty clear marked
  refine ⟨_, parse_eq_ok_iff.mpr ⟨_, by rw [render, list, read], rfl⟩, ?_⟩
  exact Option.some_ne_none raw

/-- The written form of an accepted text is read back as an equal string with the same parameters in the
same order, and is its own written form, except for a list of parameters whose first key is spelled like
the marker of a service's own form. -/
theorem reparse_iff {text : String} {cs : ConnectionString} (accepted : parse text = .ok cs) :
    (∃ again, parse cs.render = .ok again ∧ again.equals cs ∧ again.scheme = cs.scheme ∧
      again.native = cs.native ∧ again.foldedValues = cs.foldedValues ∧ again.parameters = cs.parameters ∧
      again.render = cs.render) ↔ ¬ (cs.native = none ∧ cs.keys.head? = some nativeKey) := by
  constructor
  · rintro ⟨again, reread, _, _, native, _, _, _⟩ ⟨list, first⟩
    obtain ⟨other, sameRead, own⟩ := native_of_parse_render accepted list first
    rw [reread] at sameRead
    cases sameRead
    exact own (native.trans list)
  · intro unmarked
    have reread : parse cs.render = .ok { cs with text := cs.render } := by
      by_cases list : cs.native = none
      · exact parse_render_of_parameters accepted list fun first => unmarked ⟨list, first⟩
      · exact parse_render_of_native accepted list
    exact ⟨_, reread, equals_of_same rfl rfl rfl, rfl, rfl, rfl, rfl, rfl⟩

/-- Two spellings of one key, an empty segment, a bare key and both kinds of escapes. -/
theorem reparse_mixed_spellings :
    parse "p://Key=x\\;y;;flag;KEY=%3B" = .ok
        (ofParts "p" [("Key", "x;y"), ("flag", ""), ("KEY", ";")] none (some "p://Key=x\\;y;;flag;KEY=%3B")) ∧
      ∃ again, parse "p://Key=%3B;flag=" = .ok again ∧ again.parameters = [("Key", ";"), ("flag", "")] := by
  have accepted : parse "p://Key=x\\;y;;flag;KEY=%3B" = .ok
      (ofParts "p" [("Key", "x;y"), ("flag", ""), ("KEY", ";")] none (some "p://Key=x\\;y;;flag;KEY=%3B")) := by
    rfl
  obtain ⟨again, reread, _, _, _, _, parameters, _⟩ := (reparse_iff accepted).mpr (by decide)
  exact ⟨accepted, again, reread, parameters⟩

/-- A bare key that is spelled like the marker becomes the marker once its equals sign is written. -/
theorem bare_marker_not_read_back :
    ∃ cs again, parse "p://native;x=1" = .ok cs ∧ cs.native = none ∧
      cs.parameters = [("native", ""), ("x", "1")] ∧ parse cs.render = .ok again ∧
      again.native = some ";x=1" ∧ again.parameters = [("native", ";x=1")] ∧ again.equals cs = false :=
  ⟨_, _, by rfl, by rfl, by rfl, by rfl, by rfl, by rfl, by rfl⟩

end Depot.ConnectionString
