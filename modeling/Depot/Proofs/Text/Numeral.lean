import Depot.Text.Integer
import Mathlib.Algebra.Group.Nat.Defs
import Mathlib.Data.List.TakeWhile

namespace Depot.Text

/-- Two classes of characters are apart when no range of one meets a range of the other. -/
theorem not_inRanges_of_apart {left right : List (Nat × Nat)}
    (apart : ∀ a ∈ left, ∀ b ∈ right, a.2 < b.1 ∨ b.2 < a.1) {code : Nat} (inside : inRanges left code) :
    inRanges right code = false := by
  rw [← Bool.not_eq_true]
  intro there
  simp only [inRanges, List.any_eq_true, Bool.and_eq_true, decide_eq_true_eq] at inside there
  obtain ⟨a, memberLeft, lowLeft, highLeft⟩ := inside
  obtain ⟨b, memberRight, lowRight, highRight⟩ := there
  have := apart a memberLeft b memberRight
  omega

/-- A digit character is none of those with a meaning of their own around a number. -/
structure OnlyDigit (c : Char) : Prop where
  notBlank : isBlank c = false
  notBar : c ≠ '_'
  notMinus : c ≠ '-'
  notPlus : c ≠ '+'

theorem onlyDigit_of_isDigitChar {c : Char} (digit : isDigitChar c) : OnlyDigit c := by
  by_cases ascii : c.toNat < 0x80
  · simp only [isDigitChar, if_pos ascii, Char.isDigit, Bool.and_eq_true, decide_eq_true_eq, ge_iff_le,
      UInt32.le_iff_toNat_le] at digit
    have range : 48 ≤ c.toNat ∧ c.toNat ≤ 57 := digit
    have apart {d : Char} (outside : d.toNat < 48 ∨ 57 < d.toNat) : c ≠ d := by
      rintro rfl
      omega
    refine ⟨?_, apart (by decide), apart (by decide), apart (by decide)⟩
    simp only [isBlank, if_pos ascii, Bool.or_eq_false_iff, Bool.and_eq_false_iff, decide_eq_false_iff_not]
    omega
  · have wide {d : Char} (narrow : d.toNat < 0x80) : c ≠ d := by
      rintro rfl
      exact ascii narrow
    simp only [isDigitChar, if_neg ascii] at digit
    refine ⟨?_, wide (by decide), wide (by decide), wide (by decide)⟩
    rw [isBlank, if_neg ascii]
    exact not_inRanges_of_apart (by decide) digit

/-- What an ASCII digit is to each part of the reader. -/
structure PlainDigit (c : Char) : Prop where
  value : decimalValue? c = some (c.toNat - '0'.toNat)
  digit : isDigitChar c = true

theorem plainDigit_of_isDigit {c : Char} (digit : c.isDigit) : PlainDigit c := by
  have range : 48 ≤ c.toNat ∧ c.toNat ≤ 57 := by
    simp only [Char.isDigit, Bool.and_eq_true, decide_eq_true_eq, ge_iff_le, UInt32.le_iff_toNat_le] at digit
    exact digit
  have ascii : c.toNat < 0x80 := by omega
  constructor
  · simp only [decimalValue?, if_pos ascii, if_pos digit]
    rfl
  · simp only [isDigitChar, if_pos ascii, digit]

variable {l : List Char} {s : String}

theorem barsBetweenDigits_of_digits (given : l ≠ []) (digits : ∀ c ∈ l, OnlyDigit c) :
    barsBetweenDigits l := by
  induction l with
  | nil => exact absurd rfl given
  | cons d rest ih =>
    obtain ⟨atHead, inTail⟩ := List.forall_mem_cons.mp digits
    cases rest with
    | nil => simpa [barsBetweenDigits] using atHead.notBar
    | cons c more =>
      have next : c ≠ '_' := (inTail c List.mem_cons_self).notBar
      rw [barsBetweenDigits, ih (List.cons_ne_nil _ _) inTail]
      · simpa using atHead.notBar
      · exact List.cons_ne_nil _ _
      · intro rest' same
        exact next (List.cons.inj same).1

theorem splitSign_of_digits (digits : ∀ c ∈ l, OnlyDigit c) : splitSign l = (false, l) := by
  unfold splitSign
  split
  · exact absurd rfl (digits '-' List.mem_cons_self).notMinus
  · exact absurd rfl (digits '+' List.mem_cons_self).notPlus
  · rfl

theorem dropWhile_isBlank_of_digits (digits : ∀ c ∈ l, OnlyDigit c) : l.dropWhile isBlank = l := by
  cases l with
  | nil => rfl
  | cons d rest =>
    rw [List.dropWhile_cons, (digits d List.mem_cons_self).notBlank, if_neg Bool.false_ne_true]

theorem isNumeral_eq_isSome {c : Char} (digit : OnlyDigit c) : isNumeral c = (decimalValue? c).isSome := by
  rw [isNumeral, decide_eq_false digit.notBar, Bool.false_or]

/-- A text that is read as a number if it consists of digit characters: it has a value digit by digit, and it
is not too long. -/
structure Legible (s : String) : Prop where
  decimal : ∀ c ∈ s.toList, (decimalValue? c).isSome
  short : s.toList.length ≤ digitLimit

theorem length_filterMap_decimalValue? (decimal : ∀ c ∈ l, (decimalValue? c).isSome) :
    (l.filterMap decimalValue?).length = l.length := by
  rw [List.length_filterMap_eq_countP, List.countP_eq_length]
  exact decimal

/-- Decimal digits of any script, not too many of them, denote a number. -/
theorem readInteger_of_legible (given : s.toList ≠ []) (digits : ∀ c ∈ s.toList, OnlyDigit c)
    (legible : Legible s) :
    readInteger s = .ok ((s.toList.filterMap decimalValue?).foldl (fun n d => 10 * n + d) 0 : Nat) := by
  have numeral : ∀ c ∈ s.toList, isNumeral c := fun c member =>
    (isNumeral_eq_isSome (digits c member)).trans (legible.decimal c member)
  have all_read : s.toList.takeWhile isNumeral = s.toList := List.takeWhile_eq_self_iff.mpr numeral
  have nothing_left : s.toList.dropWhile isNumeral = [] := List.dropWhile_eq_nil_iff.mpr numeral
  have few : ¬ digitLimit < (s.toList.filterMap decimalValue?).length := by
    rw [length_filterMap_decimalValue? legible.decimal]
    exact Nat.not_lt.mpr legible.short
  simp only [readInteger, dropWhile_isBlank_of_digits digits, splitSign_of_digits digits, all_read, nothing_left,
    barsBetweenDigits_of_digits given digits, Bool.not_true, Bool.false_eq_true, if_false, List.all_nil,
    if_neg few]

/-- A digit that is not decimal ends the number, and no blank; more digits than the limit are refused as
such. -/
theorem readInteger_of_illegible (given : s.toList ≠ []) (digits : ∀ c ∈ s.toList, OnlyDigit c)
    (illegible : ¬ Legible s) : ∃ e, readInteger s = .error e := by
  simp only [readInteger, dropWhile_isBlank_of_digits digits, splitSign_of_digits digits]
  by_cases decimal : ∀ c ∈ s.toList, (decimalValue? c).isSome
  · have numeral : ∀ c ∈ s.toList, isNumeral c := fun c member =>
      (isNumeral_eq_isSome (digits c member)).trans (decimal c member)
    have many : digitLimit < (s.toList.filterMap decimalValue?).length := by
      rw [length_filterMap_decimalValue? decimal]
      exact Nat.lt_of_not_le fun short => illegible ⟨decimal, short⟩
    simp only [List.takeWhile_eq_self_iff.mpr numeral, barsBetweenDigits_of_digits given digits, Bool.not_true,
      Bool.false_eq_true, if_false, if_pos many]
    exact ⟨_, rfl⟩
  · have left : s.toList.dropWhile isNumeral ≠ [] := by
      intro nothing
      refine decimal fun c member => ?_
      rw [← isNumeral_eq_isSome (digits c member)]
      exact List.dropWhile_eq_nil_iff.mp nothing c member
    have not_blank : (s.toList.dropWhile isNumeral).all isBlank = false := by
      obtain ⟨c, rest, same⟩ := List.exists_cons_of_ne_nil left
      have member : c ∈ s.toList :=
        (List.dropWhile_sublist _).subset (same ▸ List.mem_cons_self)
      rw [same, List.all_cons, (digits c member).notBlank, Bool.false_and]
    split
    · exact ⟨_, rfl⟩
    · split
      · exact ⟨_, rfl⟩
      · rw [not_blank]
        exact ⟨_, rfl⟩

/-- Of the texts of digit characters exactly the legible ones are numbers. -/
theorem readInteger_isDigits_iff (given : isDigits s) : (∃ n, readInteger s = .ok n) ↔ Legible s := by
  rw [isDigits, Bool.and_eq_true, Bool.not_eq_true', List.all_eq_true] at given
  have some_digit : s.toList ≠ [] := by
    intro nothing
    rw [String.toList_eq_nil_iff.mp nothing] at given
    exact Bool.noConfusion given.1
  have digits : ∀ c ∈ s.toList, OnlyDigit c := fun c member => onlyDigit_of_isDigitChar (given.2 c member)
  constructor
  · rintro ⟨n, read⟩
    by_contra illegible
    obtain ⟨e, refused⟩ := readInteger_of_illegible some_digit digits illegible
    rw [refused] at read
    cases read
  · exact fun legible => ⟨_, readInteger_of_legible some_digit digits legible⟩

theorem filterMap_decimalValue? (digits : ∀ c ∈ l, PlainDigit c) :
    l.filterMap decimalValue? = l.map fun c => c.toNat - '0'.toNat := by
  induction l with
  | nil => rfl
  | cons d rest ih =>
    obtain ⟨atHead, inTail⟩ := List.forall_mem_cons.mp digits
    rw [List.filterMap_cons, atHead.value, List.map_cons, ih inTail]

theorem plainDigit_of_mem_toString {n : Nat} {c : Char} (member : c ∈ (toString n).toList) : PlainDigit c := by
  rw [Nat.toString_eq_ofList_toDigits, String.toList_ofList] at member
  exact plainDigit_of_isDigit (Nat.isDigit_of_mem_toDigits (by omega) (by omega) member)

theorem toList_toString_ne_nil (n : Nat) : (toString n).toList ≠ [] := by
  rw [Nat.toString_eq_ofList_toDigits, String.toList_ofList]
  exact Nat.toDigits_ne_nil

/-- A number written out is read back. -/
theorem readInteger_toString {n : Nat} (short : n < 10 ^ digitLimit) :
    readInteger (toString n) = .ok (n : Int) := by
  have digits : ∀ c ∈ (toString n).toList, PlainDigit c := fun c => plainDigit_of_mem_toString
  have length : (toString n).toList.length ≤ digitLimit := by
    rw [Nat.toString_eq_ofList_toDigits, String.toList_ofList]
    exact (Nat.length_toDigits_le_iff (by omega) (by decide)).mpr short
  have legible : Legible (toString n) :=
    ⟨fun c member => Option.isSome_of_eq_some (digits c member).value, length⟩
  have value : ((toString n).toList.filterMap decimalValue?).foldl (fun n d => 10 * n + d) 0 = n := by
    rw [filterMap_decimalValue? digits, List.foldl_map, Nat.toString_eq_ofList_toDigits, String.toList_ofList]
    exact Nat.ofDigitChars_ten_toDigits
  rw [readInteger_of_legible (toList_toString_ne_nil n)
    (fun c member => onlyDigit_of_isDigitChar (digits c member).digit) legible, value]

theorem isDigits_toString (n : Nat) : isDigits (toString n) := by
  have given : (toString n).isEmpty = false := by
    rw [← Bool.not_eq_true, String.isEmpty_iff]
    intro none_written
    exact toList_toString_ne_nil n (by rw [none_written]; rfl)
  rw [isDigits, given, Bool.not_false, Bool.true_and, List.all_eq_true]
  exact fun c member => (plainDigit_of_mem_toString member).digit

/-- Different numbers are written differently. -/
theorem toString_injective {n k : Nat} (same : toString n = toString k) : n = k := by
  have digits : Nat.toDigits 10 n = Nat.toDigits 10 k := by
    simpa only [Nat.toString_eq_ofList_toDigits, String.toList_ofList] using congrArg String.toList same
  have value := congrArg (Nat.ofDigitChars 10 · 0) digits
  simpa only [Nat.ofDigitChars_ten_toDigits] using value

theorem toList_toString_negSucc (n : Nat) :
    (toString (Int.negSucc n)).toList = '-' :: (toString (n + 1)).toList := by
  have written : toString (Int.negSucc n) = "-" ++ toString (n + 1) := rfl
  rw [written, String.toList_append]
  rfl

theorem sign_or_digit_of_mem_toString {n : Int} {c : Char} (member : c ∈ (toString n).toList) :
    c = '-' ∨ isDigitChar c := by
  cases n with
  | ofNat n => exact .inr (plainDigit_of_mem_toString (n := n) member).digit
  | negSucc n =>
    rw [toList_toString_negSucc] at member
    exact (List.mem_cons.mp member).imp_right fun digit => (plainDigit_of_mem_toString digit).digit

/-- The sign of a negative number is no digit. -/
theorem isDigits_toString_int_iff (n : Int) : isDigits (toString n) ↔ 0 ≤ n := by
  cases n with
  | ofNat n => exact iff_of_true (isDigits_toString n) (Int.natCast_nonneg n)
  | negSucc n =>
    have sign : isDigitChar '-' = false := by decide
    refine iff_of_false (fun digits => ?_) (by omega)
    rw [isDigits, toList_toString_negSucc, List.all_cons, sign, Bool.false_and, Bool.and_false] at digits
    cases digits

theorem readInteger_toString_int {n : Int} (given : 0 ≤ n) (short : n.natAbs < 10 ^ digitLimit) :
    readInteger (toString n) = .ok n := by
  obtain ⟨size, rfl⟩ := Int.eq_ofNat_of_zero_le given
  exact readInteger_toString short

end Depot.Text
