import Depot.Proofs.ConnectionString.Reparse

namespace Depot.ConnectionString

open Connection

/-- A key, in any letter case, whose value is never shown. -/
def IsSecret (key : String) : Prop := Text.lower key ∈ secretKeys

instance (key : String) : Decidable (IsSecret key) :=
  inferInstanceAs (Decidable (_ ∈ _))

/-- A connection string of some parts, as all of them are. -/
def Formed (cs : ConnectionString) : Prop :=
  ∃ scheme pairs native text, ofParts scheme pairs native text = cs

theorem Formed.folded {cs : ConnectionString} (formed : Formed cs) : Folded cs.folded := by
  obtain ⟨_, pairs, _, _, rfl⟩ := formed
  exact folded_foldPairs pairs

section
variable {cs : ConnectionString}

theorem keys_folded (folded : Folded cs.folded) : cs.folded.keys = cs.keys.map Text.lower := by
  simp only [Table.keys, keys, parameters, spelledPairs, Table.values, List.map_map]
  exact List.map_congr_left fun e member => folded e member

theorem get?_eq_none_iff (folded : Folded cs.folded) {key : String} :
    cs.get? key = none ↔ ∀ spelled ∈ cs.keys, Text.lower spelled ≠ Text.lower key := by
  rw [get?, Option.map_eq_none_iff, Table.get?_eq_none_iff, keys_folded folded]
  simp

theorem get?_of_mem_parameters (folded : Folded cs.folded) {pair : String × String}
    (member : pair ∈ cs.parameters) : cs.get? pair.1 = some pair.2 := by
  obtain ⟨parameter, value, rfl⟩ := List.mem_map.mp member
  obtain ⟨place, entry⟩ := Table.mem_values.mp value
  obtain rfl : place = Text.lower parameter.key := folded _ entry
  rw [get?, Table.get?_eq_some_iff.mpr entry, Option.map_some]

/-- How a redacted form shows the parameter of a key. -/
def shown (cs : ConnectionString) (key : String) : String × String :=
  (key, if IsSecret key then mask else (cs.get? key).getD "")

theorem maskPair_parameters (folded : Folded cs.folded) : cs.parameters.map maskPair = cs.keys.map cs.shown := by
  rw [keys, List.map_map]
  refine List.map_congr_left fun pair member => ?_
  rw [Function.comp_apply, maskPair, shown, get?_of_mem_parameters folded member, Option.getD_some]
  exact congrArg (pair.1, ·) (if_congr List.contains_iff_mem rfl rfl)

/-- A redacted form is written from the scheme, the keys in order, and what is found under those that are not
secret; of a service's own form it keeps the scheme only. -/
theorem redacted_eq (folded : Folded cs.folded) :
    cs.redacted = if cs.isNative then write cs.scheme [] (some mask)
      else write cs.scheme (cs.keys.map cs.shown) none := by
  rw [redacted, maskPair_parameters folded]

end

/-- Two connection strings with the same scheme, the same keys in the same spelling and order, and the same
values where these are not secret; both or neither are in a service's own form. -/
structure Alike (a b : ConnectionString) : Prop where
  scheme : a.scheme = b.scheme
  native : a.isNative = b.isNative
  keys : a.keys = b.keys
  plain : ∀ key ∈ a.keys, ¬ IsSecret key → a.get? key = b.get? key

/-- Each secret value is empty in both of two connection strings or in neither. -/
def SameGaps (a b : ConnectionString) : Prop :=
  ∀ key ∈ a.keys, IsSecret key → (a.get? key).map String.isEmpty = (b.get? key).map String.isEmpty

variable {a b : ConnectionString}

theorem Alike.shown_eq (alike : Alike a b) {key : String} (member : key ∈ a.keys) : a.shown key = b.shown key := by
  by_cases secret : IsSecret key
  · simp only [shown, secret, if_true]
  · rw [shown, shown, alike.plain key member secret]

theorem Alike.redacted (alike : Alike a b) (first : Folded a.folded) (second : Folded b.folded) :
    a.redacted = b.redacted := by
  have parameters : a.keys.map a.shown = b.keys.map b.shown := by
    rw [← alike.keys]
    exact List.map_congr_left fun key member => alike.shown_eq member
  rw [redacted_eq first, redacted_eq second, alike.scheme, alike.native, parameters]

/-- What relates the values of two strings under their own keys, and two absent values, relates the values under
any key: a key is found in every spelling. -/
theorem Alike.of_keys (alike : Alike a b) (first : Folded a.folded) (second : Folded b.folded)
    (related : Option String → Option String → Prop) (absent : related none none) {key : String}
    (spelled : ∀ other ∈ a.keys, Text.lower other = Text.lower key → related (a.get? other) (b.get? other)) :
    related (a.get? key) (b.get? key) := by
  by_cases present : ∃ other ∈ a.keys, Text.lower other = Text.lower key
  · obtain ⟨other, member, same⟩ := present
    have found := spelled other member same
    rw [get?, get?, same] at found
    exact found
  · have missing : ∀ other ∈ a.keys, Text.lower other ≠ Text.lower key := by
      simpa only [not_exists, not_and] using present
    have gone := (get?_eq_none_iff first).mpr missing
    rw [alike.keys] at missing
    rw [gone, (get?_eq_none_iff second).mpr missing]
    exact absent

theorem Alike.get? (alike : Alike a b) (first : Folded a.folded) (second : Folded b.folded) {key : String}
    (plain : ¬ IsSecret key) : a.get? key = b.get? key := by
  refine alike.of_keys first second (fun x y => x = y) rfl fun other member same => alike.plain other member ?_
  rw [IsSecret, same]
  exact plain

theorem SameGaps.get? (gaps : SameGaps a b) (alike : Alike a b) (first : Folded a.folded)
    (second : Folded b.folded) {key : String} (secret : IsSecret key) :
    (a.get? key).map String.isEmpty = (b.get? key).map String.isEmpty := by
  refine alike.of_keys first second (fun x y => x.map String.isEmpty = y.map String.isEmpty) rfl
    fun other member same => gaps other member ?_
  rw [IsSecret, same]
  exact secret

end Depot.ConnectionString
