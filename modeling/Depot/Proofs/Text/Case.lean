import Depot.Text.Case
import Mathlib.Tactic.Common

namespace Depot.Text

theorem ascii_of_toLower {c : Char} (ascii : c.toLower.toNat < 0x80) : c.toNat < 0x80 := by
  by_cases capital : 'A'.val ≤ c.val ∧ c.val ≤ 'Z'.val
  · exact Nat.lt_of_le_of_lt (UInt32.le_iff_toNat_le.mp capital.2) (by decide)
  · have same : c.toLower = c := dif_neg capital
    rwa [same] at ascii

theorem lowerFrom_of_ascii (before : List Char) {l : List Char} (ascii : ∀ c ∈ l, c.toNat < 0x80) :
    lowerFrom before l = l.map Char.toLower := by
  induction l generalizing before with
  | nil => rfl
  | cons c rest ih =>
    obtain ⟨atHead, inTail⟩ := List.forall_mem_cons.mp ascii
    have other : c ≠ 'Σ' := fun same => absurd atHead (by subst same; decide)
    rw [lowerFrom, if_neg other, lowerChar, if_pos atHead, ih (c :: before) inTail]
    rfl

theorem lower_of_ascii {s : String} (ascii : ∀ c ∈ s.toList, c.toNat < 0x80) :
    lower s = String.ofList (s.toList.map Char.toLower) := by
  rw [lower, lowerFrom_of_ascii [] ascii]

theorem toNat_ofNat_of_valid {code : Nat} (valid : code.isValidChar) : (Char.ofNat code).toNat = code := by
  rw [Char.ofNat, dif_pos valid]
  rfl

/-- The Kelvin sign apart, no run of the table moves a letter to an ASCII character. -/
theorem applyShifts_wide {code : Nat} (wide : 0x80 ≤ code) (valid : code.isValidChar) (other : code ≠ 0x212a) :
    0x80 ≤ applyShifts lowerShifts code ∧ (applyShifts lowerShifts code).isValidChar := by
  have moved : ∀ s ∈ lowerShifts, s.first = 0x212a ∧ s.last = 0x212a ∨
      0x80 ≤ s.first + s.shift ∧ s.last + s.shift < 0xd800 ∨
      0xdfff < s.first + s.shift ∧ s.last + s.shift < 0x110000 := by decide +kernel
  unfold applyShifts
  split
  · rename_i s found
    have within := List.find?_some found
    rw [Bool.and_eq_true, Bool.and_eq_true, decide_eq_true_eq, decide_eq_true_eq] at within
    unfold Nat.isValidChar
    rcases moved s (List.mem_of_find?_eq_some found) with kelvin | low | high <;> omega
  · exact ⟨wide, valid⟩

theorem exists_wide_of_lowerChar {c : Char} (wide : ¬ c.toNat < 0x80) (other : c ≠ '\u212a') :
    ∃ d ∈ lowerChar c, ¬ d.toNat < 0x80 := by
  have code : c.toNat ≠ 0x212a := fun same => other (Char.toNat_inj.mp same)
  obtain ⟨far, valid⟩ := applyShifts_wide (Nat.not_lt.mp wide) c.valid code
  rw [lowerChar, if_neg wide]
  split
  · exact ⟨'\u0307', by decide, by decide⟩
  · refine ⟨_, List.mem_singleton_self _, ?_⟩
    rw [toNat_ofNat_of_valid valid]
    exact Nat.not_lt.mpr far

/-- A text whose lower case is of ASCII characters other than that of the Kelvin sign is of ASCII characters. -/
theorem ascii_of_lowerFrom {before l : List Char} (ascii : ∀ d ∈ lowerFrom before l, d.toNat < 0x80 ∧ d ≠ 'k') :
    ∀ c ∈ l, c.toNat < 0x80 := by
  induction l generalizing before with
  | nil => exact List.forall_mem_nil _
  | cons c rest ih =>
    rw [lowerFrom, List.forall_mem_append] at ascii
    refine List.forall_mem_cons.mpr ⟨?_, ih ascii.2⟩
    by_contra wide
    -- Neither form of the lower sigma is ASCII, so that its neighbours need not be looked at.
    by_cases sigma : c = 'Σ'
    · rw [if_pos sigma, List.forall_mem_singleton] at ascii
      split at ascii
      · exact absurd ascii.1.1 (by decide)
      · exact absurd ascii.1.1 (by decide)
    rw [if_neg sigma] at ascii
    by_cases kelvin : c = '\u212a'
    · subst kelvin
      exact (ascii.1 'k' (by decide +kernel)).2 rfl
    · obtain ⟨d, member, far⟩ := exists_wide_of_lowerChar wide kelvin
      exact far (ascii.1 d member).1

/-- An ASCII character that is its own lower case, and that of no character beyond ASCII. -/
def isOwnLower (c : Char) : Bool := c.toNat < 0x80 && c ≠ 'k' && c.toLower = c

/-- A word of such characters is the lower case of a text exactly if the text spells it, each letter in whatever
case. -/
theorem lower_eq_iff {s word : String} (own : word.toList.all isOwnLower) :
    lower s = word ↔ s.toList.map Char.toLower = word.toList.map Char.toLower := by
  simp only [List.all_eq_true, isOwnLower, Bool.and_eq_true, decide_eq_true_eq] at own
  have same : word.toList.map Char.toLower = word.toList :=
    (List.map_congr_left fun c member => (own c member).2).trans (List.map_id _)
  rw [same]
  constructor
  · intro folded
    have image : lowerFrom [] s.toList = word.toList := by
      rw [← String.toList_ofList (l := lowerFrom [] s.toList), ← lower, folded]
    have ascii : ∀ c ∈ s.toList, c.toNat < 0x80 :=
      ascii_of_lowerFrom (image ▸ fun c member => (own c member).1)
    rw [← image, lowerFrom_of_ascii [] ascii]
  · intro spelled
    have ascii : ∀ c ∈ s.toList, c.toNat < 0x80 := fun c member =>
      ascii_of_toLower (own c.toLower (spelled ▸ List.mem_map_of_mem member)).1.1
    rw [lower_of_ascii ascii, spelled, String.ofList_toList]

end Depot.Text
