import Depot.Connection.Escape
import Depot.Proofs.Text.Utf8

namespace Depot.Connection

/-- The piece that the written form of a character is read as. -/
def writtenPiece (c : Char) : Piece :=
  if isReserved c then .octet (UInt8.ofNat c.toNat) else .plain c

theorem isReserved_iff {c : Char} : isReserved c ↔ c = '%' ∨ c = ';' ∨ c = '=' ∨ c = '\\' := by
  simp [isReserved, or_assoc]

/-- A reserved character is never written as itself; the three characters that stand for it begin with
a percent sign and go on with two digits. -/
theorem mem_escapeChar {c d : Char} (member : d ∈ escapeChar c) : d = '%' ∨ ¬ isReserved d := by
  unfold escapeChar at member
  split at member
  · rename_i reserved
    simp only [List.mem_cons, List.not_mem_nil, or_false] at member
    rcases isReserved_iff.mp reserved with rfl | rfl | rfl | rfl <;>
      rcases member with rfl | rfl | rfl <;> decide
  · rename_i bare
    rw [List.mem_singleton] at member
    exact Or.inr (member ▸ bare)

theorem pieces_escapeChar (c : Char) (rest : List Char) :
    pieces (escapeChar c ++ rest) = writtenPiece c :: pieces rest := by
  unfold escapeChar writtenPiece
  by_cases reserved : isReserved c
  · simp only [reserved, if_true]
    rcases isReserved_iff.mp reserved with rfl | rfl | rfl | rfl <;> rfl
  · have plain := mt isReserved_iff.mpr reserved
    push Not at plain
    simp only [reserved, Bool.false_eq_true, if_false, List.singleton_append]
    rw [pieces]
    · exact fun _ _ same _ => plain.2.2.2 same
    · exact fun _ _ _ same _ => plain.1 same
    · exact plain.1

theorem pieces_escape (s : List Char) : pieces (s.flatMap escapeChar) = s.map writtenPiece := by
  induction s with
  | nil => rfl
  | cons c rest ih => rw [List.flatMap_cons, pieces_escapeChar, ih, List.map_cons]

theorem utf8EncodeChar_reserved {c : Char} (reserved : isReserved c) :
    String.utf8EncodeChar c = [UInt8.ofNat c.toNat] := by
  rcases isReserved_iff.mp reserved with rfl | rfl | rfl | rfl <;> decide

/-- A written value holds no backslash, so that it is read as one run, from its first character to
its last. -/
theorem joinFrom_writtenPiece (start position : Nat) (run : Bytes) (s : List Char) :
    joinFrom start position run (s.map writtenPiece) =
      closeRun start ((s.flatMap String.utf8EncodeChar).reverse ++ run) := by
  induction s generalizing position run with
  | nil => rfl
  | cons c rest ih =>
    rw [List.map_cons, List.flatMap_cons, List.reverse_append, List.append_assoc]
    by_cases reserved : isReserved c
    · simp only [writtenPiece, reserved, if_true, joinFrom, ih, utf8EncodeChar_reserved,
        List.reverse_singleton, List.singleton_append]
    · simp only [writtenPiece, reserved, if_false, joinFrom, ih, Bool.false_eq_true]

theorem closeRun_encode (start : Nat) (s : List Char) :
    closeRun start (s.flatMap String.utf8EncodeChar).reverse = .ok s := by
  rw [closeRun, List.reverse_reverse, ← Utf8.encode_ofList, Utf8.decode?_encode]
  simp only [String.toList_ofList]

theorem readValue_escape (s : List Char) : readValue (s.flatMap escapeChar) = .ok s := by
  rw [readValue, pieces_escape, joinFrom_writtenPiece, List.append_nil, closeRun_encode]

theorem toList_escape (value : String) : (escape value).toList = value.toList.flatMap escapeChar := by
  rw [escape, String.toList_ofList]

/-- Whatever a value holds, its written form is read back as the value, in any segment and at any
place. -/
theorem unescape_escape (segment value : String) (offset : Int) :
    unescape segment (escape value) offset = .ok value := by
  simp only [unescape, toList_escape, readValue_escape, String.ofList_toList]

end Depot.Connection
