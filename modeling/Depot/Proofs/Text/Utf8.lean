import Depot.Text.Utf8
import Mathlib.Data.List.Basic

namespace Depot.Utf8

theorem encode_ofList (s : List Char) : encode (String.ofList s) = s.flatMap String.utf8EncodeChar := by
  simp [encode, List.utf8Encode]

/-- Bytes that stand at the beginning of a character, if there are any. -/
def Begins (bytes : Bytes) : Prop := ∀ first, bytes.head? = some first → first.IsUTF8FirstByte

theorem begins_char (c : Char) (rest : Bytes) : Begins (String.utf8EncodeChar c ++ rest) := by
  intro first found
  have size : 0 < (String.utf8EncodeChar c).length := List.length_pos_of_ne_nil String.utf8EncodeChar_ne_nil
  rw [List.head?_append_of_ne_nil _ String.utf8EncodeChar_ne_nil, List.head?_eq_getElem?,
    List.getElem?_eq_getElem size] at found
  cases found
  exact UInt8.isUTF8FirstByte_getElem_zero_utf8EncodeChar

/-- No byte of a character but its first stands at a beginning. -/
theorem eq_nil_of_begins_within {c : Char} {front back : Bytes} (cut : String.utf8EncodeChar c = front ++ back)
    (begun : front ≠ []) (begins : Begins back) : back = [] := by
  by_contra more
  obtain ⟨first, after, rfl⟩ := List.exists_cons_of_ne_nil more
  have inside : front.length < (String.utf8EncodeChar c).length := by simp [cut]
  have place : (String.utf8EncodeChar c)[front.length] = first := by simp [cut]
  have start : (String.utf8EncodeChar c)[front.length].IsUTF8FirstByte := place ▸ begins first rfl
  exact begun (List.length_eq_zero_iff.mp (UInt8.isUTF8FirstByte_getElem_utf8EncodeChar.mp start))

/-- A text is cut in two where its bytes are cut at the beginning of a character. -/
theorem exists_cut {text : List Char} {left right : Bytes}
    (whole : text.flatMap String.utf8EncodeChar = left ++ right) (begins : Begins right) :
    ∃ before after, text = before ++ after ∧ before.flatMap String.utf8EncodeChar = left ∧
      after.flatMap String.utf8EncodeChar = right := by
  induction text generalizing left with
  | nil =>
    obtain ⟨rfl, rfl⟩ := List.append_eq_nil_iff.mp whole.symm
    exact ⟨[], [], rfl, rfl, rfl⟩
  | cons c rest ih =>
    by_cases begun : left = []
    · subst begun
      exact ⟨[], c :: rest, rfl, rfl, whole⟩
    rw [List.flatMap_cons, List.append_eq_append_iff] at whole
    rcases whole with ⟨more, rfl, others⟩ | ⟨beyond, first, rfl⟩
    · obtain ⟨before, after, rfl, rfl, rfl⟩ := ih others
      exact ⟨c :: before, after, rfl, rfl, rfl⟩
    · -- The cut falls within the first character, and so at its end.
      have atEnd : beyond = [] := by
        refine eq_nil_of_begins_within first begun fun byte found => begins byte ?_
        rw [List.head?_append, found, Option.some_or]
      subst atEnd
      rw [List.append_nil] at first
      exact ⟨[c], rest, rfl, by rw [← first, List.flatMap_singleton], (List.nil_append _).symm⟩

theorem utf8EncodeChar_append_inj {c d : Char} {s t : Bytes}
    (same : String.utf8EncodeChar c ++ s = String.utf8EncodeChar d ++ t) : c = d ∧ s = t := by
  have first (e : Char) (rest : Bytes) :
      (String.utf8EncodeChar e ++ rest).toByteArray.utf8DecodeChar? 0 = some e := by
    rw [List.toByteArray_append]
    exact ByteArray.utf8DecodeChar?_utf8EncodeChar_append
  have decoded := first c s
  rw [same, first d t, Option.some.injEq] at decoded
  subst decoded
  exact ⟨rfl, List.append_cancel_left same⟩

/-- A character that is found among the bytes of a text is one of its characters, with what its bytes say before
and behind it. -/
theorem exists_char {text : List Char} {c : Char} {left right : Bytes}
    (whole : text.flatMap String.utf8EncodeChar = left ++ (String.utf8EncodeChar c ++ right)) :
    ∃ before after, text = before ++ c :: after ∧ before.flatMap String.utf8EncodeChar = left ∧
      after.flatMap String.utf8EncodeChar = right := by
  obtain ⟨before, rest, rfl, left_eq, others⟩ := exists_cut whole (begins_char c right)
  cases rest with
  | nil => exact absurd (List.append_eq_nil_iff.mp others.symm).1 String.utf8EncodeChar_ne_nil
  | cons d after =>
    rw [List.flatMap_cons] at others
    obtain ⟨rfl, right_eq⟩ := utf8EncodeChar_append_inj others
    exact ⟨before, after, rfl, left_eq, right_eq⟩

end Depot.Utf8
