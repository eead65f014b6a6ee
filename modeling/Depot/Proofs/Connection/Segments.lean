import Depot.Connection.Segment
import Depot.Proofs.Connection.Escape
import Depot.Proofs.Outcome

namespace Depot.Connection

/-- Characters that the search for segments passes over one by one. -/
def isBare (c : Char) : Bool := c ≠ ';' && c ≠ '\\'

theorem segmentsFrom_start (position : Nat) (body : List Char) :
    ∃ text rest, segmentsFrom position body = ⟨text, position⟩ :: rest := by
  have extended (front : List Char) (ss : List Segment) :
      ∃ text rest, extendFirst front position ss = ⟨text, position⟩ :: rest := by
    cases ss with
    | nil => exact ⟨_, _, rfl⟩
    | cons => exact ⟨_, _, rfl⟩
  fun_cases segmentsFrom position body with
  | case1 => exact ⟨_, _, rfl⟩
  | case2 => exact extended _ _
  | case3 => exact extended _ _
  | case4 => exact ⟨_, _, rfl⟩
  | case5 => exact extended _ _

theorem segmentsFrom_cons {c : Char} (bare : isBare c) (position : Nat) (rest : List Char) :
    segmentsFrom position (c :: rest) = extendFirst [c] position (segmentsFrom (position + 1) rest) := by
  simp only [isBare, ne_eq, Bool.and_eq_true, decide_eq_true_eq] at bare
  rw [segmentsFrom]
  · exact fun _ _ same _ => bare.2 same
  · exact bare.1

theorem segmentsFrom_append {s : List Char} (bare : ∀ c ∈ s, isBare c) (position : Nat)
    (rest : List Char) :
    segmentsFrom position (s ++ rest) = extendFirst s position (segmentsFrom (position + s.length) rest) := by
  induction s generalizing position with
  | nil =>
    obtain ⟨text, more, same⟩ := segmentsFrom_start position rest
    simp only [List.nil_append, List.length_nil, Nat.add_zero, same, extendFirst]
  | cons c s ih =>
    obtain ⟨atHead, inTail⟩ := List.forall_mem_cons.mp bare
    rw [List.cons_append, segmentsFrom_cons atHead, ih inTail]
    obtain ⟨text, more, same⟩ := segmentsFrom_start (position + (c :: s).length) rest
    have place : position + 1 + s.length = position + (c :: s).length := by
      simp only [List.length_cons]; omega
    simp only [place, same, extendFirst, List.cons_append, List.nil_append]

/-- Joining bare texts by semicolons and cutting the result gives the texts again. -/
theorem texts_segmentsFrom_join {parts : List (List Char)} (some_part : parts ≠ [])
    (bare : ∀ part ∈ parts, ∀ c ∈ part, isBare c) (position : Nat) :
    (segmentsFrom position ([';'].intercalate parts)).map Segment.text = parts := by
  induction parts generalizing position with
  | nil => exact absurd rfl some_part
  | cons part more ih =>
    obtain ⟨atHead, inTail⟩ := List.forall_mem_cons.mp bare
    cases more with
    | nil =>
      have cut := segmentsFrom_append atHead position []
      rw [List.append_nil] at cut
      rw [List.intercalate_singleton, cut]
      simp [segmentsFrom, extendFirst]
    | cons next more =>
      rw [List.intercalate_cons_cons, List.append_assoc, List.singleton_append, segmentsFrom_append atHead]
      simp only [segmentsFrom, extendFirst, List.append_nil, List.map_cons]
      rw [ih (List.cons_ne_nil _ _) inTail]

theorem isKeyChar_bare {c : Char} (keyChar : isKeyChar c) : isBare c ∧ c ≠ '=' := by
  refine ⟨?_, fun same => by subst same; revert keyChar; decide⟩
  by_contra special
  simp only [isBare, ne_eq, Bool.and_eq_true, decide_eq_true_eq, not_and_or, not_not] at special
  rcases special with rfl | rfl <;> revert keyChar <;> decide

theorem isKey_iff {key : String} : isKey key ↔ key ≠ "" ∧ ∀ c ∈ key.toList, isKeyChar c := by
  simp only [isKey, Bool.and_eq_true, Bool.not_eq_true', List.all_eq_true, String.isEmpty_eq_false_iff, ne_eq]

theorem isKey_bare {key : String} (valid : isKey key) {c : Char} (member : c ∈ key.toList) :
    isBare c ∧ c ≠ '=' :=
  isKeyChar_bare ((isKey_iff.mp valid).2 c member)

theorem splitKey_append {key : List Char} (noEquals : ∀ c ∈ key, c ≠ '=') (raw : List Char) :
    splitKey (key ++ '=' :: raw) = (key, some raw) := by
  induction key with
  | nil => rfl
  | cons c key ih =>
    obtain ⟨atHead, inTail⟩ := List.forall_mem_cons.mp noEquals
    rw [List.cons_append, splitKey, ih inTail]
    exact atHead

/-- Whatever is read from a segment has a valid key. -/
theorem isKey_of_readSegment {text : List Char} {pair : String × String}
    (run : readSegment text = .ok pair) : isKey pair.1 := by
  unfold readSegment at run
  simp only [] at run
  split at run
  · cases run
  · split at run
    · cases run
    · rename_i valid
      have valid : isKey (String.ofList (splitKey text).1) := by simpa using valid
      split at run
      · cases run
        exact valid
      · obtain ⟨value, _, same⟩ := Outcome.map_eq_ok_iff.mp run
        cases same
        exact valid

theorem isKey_of_readSegments {ss : List Segment} {pairs : List (String × String)}
    (run : readSegments ss = .ok pairs) : ∀ pair ∈ pairs, isKey pair.1 := by
  fun_induction readSegments ss generalizing pairs with
  | case1 => cases run; simp
  | case2 s rest _ ih => exact ih run
  | case3 => cases run
  | case4 => cases run
  | case5 s rest _ pair read more _ ih =>
    cases run
    exact List.forall_mem_cons.mpr ⟨isKey_of_readSegment read, ih ‹_›⟩

end Depot.Connection
