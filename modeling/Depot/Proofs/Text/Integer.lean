import Depot.Proofs.Text.Numeral
import Mathlib.Data.List.Induction
import Mathlib.Data.Nat.Digits.Defs

namespace Depot.Text

/-- Decimal digits with their values, and at most one bar between two of them. -/
inductive Digits : List Char → List Nat → Prop
  | last {c : Char} {d : Nat} (digit : decimalValue? c = some d) : Digits [c] [d]
  | next {c : Char} {d : Nat} {rest : List Char} {ds : List Nat} (digit : decimalValue? c = some d)
      (more : Digits rest ds) : Digits (c :: rest) (d :: ds)
  | bar {c : Char} {d : Nat} {rest : List Char} {ds : List Nat} (digit : decimalValue? c = some d)
      (more : Digits rest ds) : Digits (c :: '_' :: rest) (d :: ds)

inductive Sign : List Char → Int → Prop
  | none : Sign [] 1
  | plus : Sign ['+'] 1
  | minus : Sign ['-'] (-1)

/-- A text denotes an integer: a sign and at most 4300 digits, of which the last has the least weight, stand between
blanks. -/
def Denotes (s : String) (n : Int) : Prop :=
  ∃ before sign body after unit ds, s.toList = before ++ (sign ++ (body ++ after)) ∧ (∀ c ∈ before, isBlank c) ∧
    (∀ c ∈ after, isBlank c) ∧ Sign sign unit ∧ Digits body ds ∧ ds.length ≤ 4300 ∧
    n = unit * (Nat.ofDigits 10 ds.reverse : Nat)

theorem onlyDigit_of_decimal {c : Char} {d : Nat} (digit : decimalValue? c = some d) : OnlyDigit c := by
  have within : ∀ a ∈ decimalRanges, ∃ b ∈ digitRanges, b.1 ≤ a.1 ∧ a.2 ≤ b.2 := by decide +kernel
  refine onlyDigit_of_isDigitChar ?_
  unfold decimalValue? at digit
  unfold isDigitChar
  split_ifs at digit ⊢ with ascii plain
  · exact plain
  · obtain ⟨range, found, -⟩ := Option.map_eq_some_iff.mp digit
    have inside := List.find?_some found
    obtain ⟨wider, member, low, high⟩ := within range (List.mem_of_find?_eq_some found)
    rw [Bool.and_eq_true, decide_eq_true_eq, decide_eq_true_eq] at inside
    rw [inRanges, List.any_eq_true]
    refine ⟨wider, member, ?_⟩
    rw [Bool.and_eq_true, decide_eq_true_eq, decide_eq_true_eq]
    omega

theorem isNumeral_of_decimal {c : Char} {d : Nat} (digit : decimalValue? c = some d) : isNumeral c := by
  rw [isNumeral, digit, Option.isSome_some, Bool.or_true]

theorem isNumeral_of_blank {c : Char} (blank : isBlank c) : isNumeral c = false := by
  rw [← Bool.not_eq_true]
  intro numeral
  rw [isNumeral, Bool.or_eq_true, decide_eq_true_eq] at numeral
  rcases numeral with rfl | digit
  · exact absurd blank (by decide)
  · obtain ⟨d, value⟩ := Option.isSome_iff_exists.mp digit
    rw [(onlyDigit_of_decimal value).notBlank] at blank
    cases blank

namespace Digits

variable {body : List Char} {ds : List Nat}

theorem numeral (digits : Digits body ds) : ∀ c ∈ body, isNumeral c := by
  induction digits with
  | last digit => exact List.forall_mem_singleton.mpr (isNumeral_of_decimal digit)
  | next digit _ ih => exact List.forall_mem_cons.mpr ⟨isNumeral_of_decimal digit, ih⟩
  | bar digit _ ih =>
    exact List.forall_mem_cons.mpr ⟨isNumeral_of_decimal digit, List.forall_mem_cons.mpr ⟨by decide, ih⟩⟩

theorem filterMap_eq (digits : Digits body ds) : body.filterMap decimalValue? = ds := by
  have bar : decimalValue? '_' = none := by decide
  induction digits with
  | last digit => simp [digit]
  | next digit _ ih => simp [digit, ih]
  | bar digit _ ih => simp [digit, bar, ih]

theorem exists_first (digits : Digits body ds) : ∃ c rest d, body = c :: rest ∧ decimalValue? c = some d := by
  cases digits with
  | last digit => exact ⟨_, _, _, rfl, digit⟩
  | next digit => exact ⟨_, _, _, rfl, digit⟩
  | bar digit => exact ⟨_, _, _, rfl, digit⟩

theorem barsBetween (digits : Digits body ds) : barsBetweenDigits body := by
  induction digits with
  | last digit => simpa [barsBetweenDigits] using (onlyDigit_of_decimal digit).notBar
  | next digit more ih =>
    obtain ⟨c, rest, d, rfl, first⟩ := more.exists_first
    rw [barsBetweenDigits, ih]
    · simpa using (onlyDigit_of_decimal digit).notBar
    · exact List.cons_ne_nil _ _
    · intro others same
      exact (onlyDigit_of_decimal first).notBar (List.cons.inj same).1
  | bar digit _ ih =>
    rw [barsBetweenDigits, ih]
    simpa using (onlyDigit_of_decimal digit).notBar

end Digits

theorem digits_of_barsBetween {body : List Char} (bars : barsBetweenDigits body) (numeral : ∀ c ∈ body, isNumeral c) :
    Digits body (body.filterMap decimalValue?) := by
  have value {c : Char} (here : isNumeral c) (bare : (c != '_') = true) : ∃ d, decimalValue? c = some d := by
    rw [isNumeral, Bool.or_eq_true, decide_eq_true_eq] at here
    exact Option.isSome_iff_exists.mp (here.resolve_left (by simpa using bare))
  have bar : decimalValue? '_' = none := by decide
  fun_induction barsBetweenDigits body with
  | case1 => cases bars
  | case2 c =>
    obtain ⟨d, digit⟩ := value (numeral c List.mem_cons_self) bars
    rw [List.filterMap_cons_some digit]
    exact .last digit
  | case3 c rest ih =>
    rw [Bool.and_eq_true] at bars
    simp only [List.forall_mem_cons] at numeral
    obtain ⟨d, digit⟩ := value numeral.1 bars.1
    rw [List.filterMap_cons_some digit, List.filterMap_cons_none bar]
    exact .bar digit (ih bars.2 numeral.2.2)
  | case4 c rest notLast notBar ih =>
    rw [Bool.and_eq_true] at bars
    obtain ⟨atHead, inTail⟩ := List.forall_mem_cons.mp numeral
    obtain ⟨d, digit⟩ := value atHead bars.1
    rw [List.filterMap_cons_some digit]
    exact .next digit (ih bars.2 inTail)

theorem foldl_eq_ofDigits (ds : List Nat) : ds.foldl (fun n d => 10 * n + d) 0 = Nat.ofDigits 10 ds.reverse := by
  induction ds using List.reverseRecOn with
  | nil => rfl
  | append_singleton ds d ih =>
    rw [List.foldl_append, ih, List.foldl_cons, List.foldl_nil, List.reverse_concat, Nat.ofDigits_cons]
    exact Nat.add_comm _ _

/-- A text begins with one sign at most. -/
theorem sign_of_splitSign (l : List Char) :
    ∃ sign, Sign sign (if (splitSign l).1 then -1 else 1) ∧ l = sign ++ (splitSign l).2 := by
  unfold splitSign
  split
  · exact ⟨['-'], .minus, rfl⟩
  · exact ⟨['+'], .plus, rfl⟩
  · exact ⟨[], .none, rfl⟩

/-- A sign is no blank, and neither is the digit that stands first without one. -/
theorem dropWhile_isBlank_sign {sign body after : List Char} {unit : Int} {ds : List Nat} (signed : Sign sign unit)
    (digits : Digits body ds) : (sign ++ (body ++ after)).dropWhile isBlank = sign ++ (body ++ after) := by
  cases signed with
  | none =>
    obtain ⟨c, rest, d, rfl, digit⟩ := digits.exists_first
    exact List.dropWhile_cons_of_neg (by rw [(onlyDigit_of_decimal digit).notBlank]; exact Bool.false_ne_true)
  | plus => exact List.dropWhile_cons_of_neg (by decide)
  | minus => exact List.dropWhile_cons_of_neg (by decide)

theorem splitSign_sign {sign body : List Char} {unit : Int} {ds : List Nat} (signed : Sign sign unit)
    (digits : Digits body ds) (after : List Char) : ∃ negative,
      splitSign (sign ++ (body ++ after)) = (negative, body ++ after) ∧ unit = if negative then -1 else 1 := by
  cases signed with
  | none =>
    obtain ⟨c, rest, d, rfl, digit⟩ := digits.exists_first
    refine ⟨false, ?_, rfl⟩
    have only := onlyDigit_of_decimal digit
    unfold splitSign
    split
    · rename_i same
      exact absurd (List.cons.inj same).1 only.notMinus
    · rename_i same
      exact absurd (List.cons.inj same).1 only.notPlus
    · rfl
  | plus => exact ⟨false, rfl, rfl⟩
  | minus => exact ⟨true, rfl, rfl⟩

theorem takeWhile_isNumeral {body after : List Char} {ds : List Nat} (digits : Digits body ds)
    (blank : ∀ c ∈ after, isBlank c) :
    (body ++ after).takeWhile isNumeral = body ∧ (body ++ after).dropWhile isNumeral = after := by
  have ended : after.takeWhile isNumeral = [] ∧ after.dropWhile isNumeral = after := by
    cases after with
    | nil => exact ⟨rfl, rfl⟩
    | cons c rest =>
      have other : ¬ isNumeral c := by
        rw [isNumeral_of_blank (blank c List.mem_cons_self)]
        exact Bool.false_ne_true
      exact ⟨List.takeWhile_cons_of_neg other, List.dropWhile_cons_of_neg other⟩
  rw [List.takeWhile_append_of_pos digits.numeral, List.dropWhile_append_of_pos digits.numeral, ended.1, ended.2,
    List.append_nil]
  exact ⟨rfl, rfl⟩

theorem readInteger_of_denotes {s : String} {n : Int} (denotes : Denotes s n) : readInteger s = .ok n := by
  obtain ⟨before, sign, body, after, unit, ds, whole, blank, blank', signed, digits, short, rfl⟩ := denotes
  obtain ⟨negative, split, rfl⟩ := splitSign_sign signed digits after
  obtain ⟨run, rest⟩ := takeWhile_isNumeral digits blank'
  have few : ¬ digitLimit < ds.length := Nat.not_lt.mpr short
  have ended : after.all isBlank = true := List.all_eq_true.mpr blank'
  simp only [readInteger, whole, List.dropWhile_append_of_pos blank, dropWhile_isBlank_sign signed digits, split, run,
    rest, digits.barsBetween, digits.filterMap_eq, few, ended, foldl_eq_ofDigits, Bool.not_true, Bool.false_eq_true,
    if_false]
  cases negative with
  | false => rw [if_neg Bool.false_ne_true, if_neg Bool.false_ne_true, one_mul]
  | true => rw [if_pos rfl, if_pos rfl, neg_one_mul]

theorem denotes_of_readInteger {s : String} {n : Int} (read : readInteger s = .ok n) : Denotes s n := by
  obtain ⟨sign, signed, split⟩ := sign_of_splitSign (s.toList.dropWhile isBlank)
  unfold readInteger at read
  generalize splitSign (s.toList.dropWhile isBlank) = parts at read signed split
  obtain ⟨negative, text⟩ := parts
  simp only [] at read signed split
  have whole : s.toList = s.toList.takeWhile isBlank ++
      (sign ++ (text.takeWhile isNumeral ++ text.dropWhile isNumeral)) := by
    rw [List.takeWhile_append_dropWhile, ← split, List.takeWhile_append_dropWhile]
  split at read
  · cases read
  rename_i barred
  split at read
  · cases read
  rename_i few
  split at read
  · cases read
  rename_i ended
  -- The numerals are the longest run of them, and what is left has been found to be blank.
  have digits := digits_of_barsBetween (by simpa using barred) fun c => List.mem_takeWhile_imp
  refine ⟨_, sign, _, _, _, _, whole, fun c => List.mem_takeWhile_imp, by simpa using ended, signed, digits,
    Nat.not_lt.mp few, ?_⟩
  cases read
  rw [foldl_eq_ofDigits]
  cases negative with
  | false => rw [if_neg Bool.false_ne_true, if_neg Bool.false_ne_true, one_mul]
  | true => rw [if_pos rfl, if_pos rfl, neg_one_mul]

/-- A text is read as an integer exactly if it denotes that integer. -/
theorem readInteger_eq_ok_iff {s : String} {n : Int} : readInteger s = .ok n ↔ Denotes s n :=
  ⟨denotes_of_readInteger, readInteger_of_denotes⟩

theorem Denotes.unique {s : String} {n k : Int} (first : Denotes s n) (second : Denotes s k) : n = k :=
  Except.ok.inj ((readInteger_of_denotes first).symm.trans (readInteger_of_denotes second))

end Depot.Text
