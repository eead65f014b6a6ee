import Depot.Proofs.Connection.Spelling

namespace Depot.Connection

/-- Bytes, each written as a percent sign and two digits of either case. -/
inductive Escapes : Bytes → List Char → Prop
  | nil : Escapes [] []
  | cons {a b : Char} {high low : Nat} {bytes : Bytes} {rest : List Char} (first : HexDigit a high)
      (second : HexDigit b low) (more : Escapes bytes rest) :
      Escapes (UInt8.ofNat (16 * high + low) :: bytes) ('%' :: a :: b :: rest)

/-- How a character can be written in front of the rest of a text. A backslash that stands for itself must not
protect what comes next. -/
inductive Writes (rest : List Char) : Char → List Char → Prop
  | guarded {c : Char} (quotable : c ∈ [';', '=', '\\']) : Writes rest c ['\\', c]
  | escaped {c : Char} {piece : List Char} (escapes : Escapes (String.utf8EncodeChar c) piece) : Writes rest c piece
  | itself {c : Char} (bare : c ≠ '%') (alone : ¬ Guards c rest) : Writes rest c [c]

/-- A text that can be cut into pieces, one for each character of a value in order. -/
inductive Spelling : List Char → List Char → Prop
  | nil : Spelling [] []
  | cons {c : Char} {piece rest value : List Char} (first : Writes rest c piece) (more : Spelling rest value) :
      Spelling (piece ++ rest) (c :: value)

/-- Whatever is written for a value is a spelling of it. -/
def Writer (write : String → String) : Prop := ∀ value, Spelling (write value).toList value.toList

theorem Escapes.joinFrom_eq {bytes : Bytes} {piece : List Char} (escapes : Escapes bytes piece)
    (rest : List Char) (start position : Nat) (run : Bytes) :
    joinFrom start position run (pieces (piece ++ rest)) =
      joinFrom start (position + piece.length) (bytes.reverse ++ run) (pieces rest) := by
  induction escapes generalizing position run with
  | nil => rfl
  | @cons a b high low bytes piece first second more ih =>
    have place : position + 3 + piece.length = position + ('%' :: a :: b :: piece).length := by
      simp only [List.length_cons]
      omega
    simp only [List.cons_append, pieces_escape_octet first second, joinFrom, ih, place, List.reverse_cons,
      List.append_assoc, List.nil_append]

theorem encoded_concat (done : List Char) (c : Char) :
    ((done ++ [c]).flatMap String.utf8EncodeChar).reverse =
      (String.utf8EncodeChar c).reverse ++ (done.flatMap String.utf8EncodeChar).reverse := by
  rw [List.flatMap_append, List.flatMap_singleton, List.reverse_append]

/-- Between two pieces, what has been collected are the bytes of whole characters. -/
theorem Spelling.joinFrom_eq {raw value : List Char} (spelling : Spelling raw value) (start position : Nat)
    (done : List Char) :
    joinFrom start position (done.flatMap String.utf8EncodeChar).reverse (pieces raw) = .ok (done ++ value) := by
  induction spelling generalizing start position done with
  | nil => rw [pieces, joinFrom, closeRun_encode, List.append_nil]
  | @cons c piece rest value first more ih =>
    have next (position : Nat) := ih start position (done ++ [c])
    simp only [encoded_concat, List.append_assoc, List.singleton_append] at next
    cases first with
    | guarded quotable =>
      have after := ih (position + 2) (position + 2) []
      rw [List.flatMap_nil, List.reverse_nil, List.nil_append] at after
      rw [List.cons_append, List.singleton_append, pieces_guarded quotable, joinFrom, closeRun_encode]
      simp only [after]
    | escaped escapes => rw [escapes.joinFrom_eq, next]
    | itself bare alone => rw [List.singleton_append, pieces_plain bare alone, joinFrom, next]

/-- Characters that stand alone one after another. -/
theorem of_scan_singles (front : List Char) {back raw : List Char} {tail : List Token}
    (scanned : scan raw = (front ++ back).map .single ++ tail) :
    ∃ rest, raw = front ++ rest ∧ scan rest = back.map .single ++ tail := by
  induction front generalizing raw with
  | nil => exact ⟨raw, rfl, scanned⟩
  | cons c front ih =>
    obtain ⟨after, rfl, later, -⟩ := of_scan_single scanned
    obtain ⟨rest, rfl, last⟩ := ih later
    exact ⟨rest, rfl, last⟩

/-- Once some bytes of a character are written as escapes, so are the others: none of them can begin a character
that is written as itself. -/
theorem Octets.escapes_of_begun {c : Char} {front back right : Bytes} {run : List Char}
    (cut : String.utf8EncodeChar c = front ++ back) (begun : front ≠ []) (octets : Octets run (back ++ right)) :
    ∃ piece rest, run = piece ++ rest ∧ Escapes back piece ∧ Octets rest right := by
  induction back generalizing front run with
  | nil => exact ⟨[], run, rfl, .nil, octets⟩
  | cons byte back ih =>
    have shifted : String.utf8EncodeChar c = (front ++ [byte]) ++ back := by
      rw [cut, List.append_assoc, List.singleton_append]
    generalize whole : byte :: back ++ right = bytes at octets
    cases octets with
    | nil => cases whole
    | escape first second more =>
      obtain ⟨rfl, rfl⟩ := List.cons.inj whole
      obtain ⟨piece, rest, rfl, escapes, others⟩ := ih shifted (List.append_ne_nil_of_right_ne_nil _ nofun) more
      exact ⟨_, rest, rfl, .cons first second escapes, others⟩
    | @plain d _ bytes bare more =>
      have begins : Utf8.Begins (byte :: back) := by
        intro first found
        refine Utf8.begins_char d bytes first ?_
        rw [← whole, ← found]
        rfl
      exact absurd (Utf8.eq_nil_of_begins_within cut begun begins) nofun

/-- A run that holds the bytes of some characters is cut into their pieces. -/
theorem spelling_of_octets {run text raw value : List Char} {tail : List Token}
    (octets : Octets run (text.flatMap String.utf8EncodeChar)) (scanned : scan raw = run.map .single ++ tail)
    (more : ∀ rest, scan rest = tail → Spelling rest value) : Spelling raw (text ++ value) := by
  induction text generalizing run raw with
  | nil =>
    rw [List.flatMap_nil] at octets
    generalize whole : [] = bytes at octets
    cases octets with
    | nil => exact more raw scanned
    | escape => cases whole
    | plain => exact absurd (List.append_eq_nil_iff.mp whole.symm).1 String.utf8EncodeChar_ne_nil
  | cons c text ih =>
    rw [List.flatMap_cons] at octets
    generalize whole : String.utf8EncodeChar c ++ text.flatMap String.utf8EncodeChar = bytes at octets
    cases octets with
    | nil => exact absurd (List.append_eq_nil_iff.mp whole).1 String.utf8EncodeChar_ne_nil
    | @plain d after bytes bare others =>
      obtain ⟨rfl, rfl⟩ := Utf8.utf8EncodeChar_append_inj whole
      obtain ⟨rest, rfl, later, alone⟩ := of_scan_single scanned
      exact .cons (.itself bare alone) (ih others later)
    | @escape a b high low after bytes first second others =>
      -- The first byte is escaped here; the others of the same character follow in the run.
      obtain ⟨byte, back, encoded⟩ := List.exists_cons_of_ne_nil (@String.utf8EncodeChar_ne_nil c)
      rw [encoded] at whole
      obtain ⟨rfl, rfl⟩ := List.cons.inj whole
      obtain ⟨piece, rest, rfl, escapes, last⟩ := Octets.escapes_of_begun encoded (List.cons_ne_nil _ []) others
      obtain ⟨behind, rfl, later⟩ := of_scan_singles ('%' :: a :: b :: piece) scanned
      exact .cons (.escaped (encoded ▸ .cons first second escapes)) (ih last later)

theorem spelling_of_spells {tokens : List Token} {raw value : List Char} (spells : Spells tokens value)
    (scanned : scan raw = tokens) : Spelling raw value := by
  induction spells generalizing raw with
  | @last run text stretch =>
    have atEnd (rest : List Char) (scanned : scan rest = []) : Spelling rest [] := by
      rw [of_scan_nil scanned]
      exact .nil
    rw [← List.append_nil text]
    exact spelling_of_octets (stretch_iff.mp stretch) (scanned.trans (List.append_nil _).symm) atEnd
  | @guarded run text value c tokens stretch more ih =>
    refine spelling_of_octets (stretch_iff.mp stretch) scanned fun rest atMark => ?_
    obtain ⟨after, rfl, later, quotable⟩ := of_scan_guarded atMark
    exact .cons (.guarded quotable) (ih later)

/-- A text is read as a value exactly when it can be cut into pieces for the characters of the value. -/
theorem readValue_eq_ok_iff_spelling {raw value : List Char} : readValue raw = .ok value ↔ Spelling raw value := by
  constructor
  · intro read
    exact spelling_of_spells (readValue_eq_ok_iff.mp read) rfl
  · intro spelling
    exact spelling.joinFrom_eq 0 0 []

theorem writes_escapeChar (c : Char) (rest : List Char) : Writes rest c (escapeChar c) := by
  unfold escapeChar
  by_cases reserved : isReserved c
  · rw [if_pos reserved]
    have small : c.toNat < 128 := by
      rcases isReserved_iff.mp reserved with rfl | rfl | rfl | rfl <;> decide
    have first : HexDigit (Text.hexDigitUpper (c.toNat / 16)) (c.toNat / 16) := ⟨by omega, Or.inr rfl⟩
    have second : HexDigit (Text.hexDigitUpper (c.toNat % 16)) (c.toNat % 16) := ⟨by omega, Or.inr rfl⟩
    have escapes := Escapes.cons first second .nil
    rw [Nat.div_add_mod, ← utf8EncodeChar_reserved reserved] at escapes
    exact .escaped escapes
  · rw [if_neg reserved]
    have plain := mt isReserved_iff.mpr reserved
    push Not at plain
    exact .itself plain.1 (not_guards plain.2.2.2 rest)

theorem spelling_escape (value : List Char) : Spelling (value.flatMap escapeChar) value := by
  induction value with
  | nil => exact .nil
  | cons c value ih => exact .cons (writes_escapeChar c _) ih

/-- A text is read as a value exactly when it is a spelling of that value, whatever segment it stands in and
wherever. What is written by a writer is read back, this is how the writers can be told, and the writer of this
library is one of them. -/
theorem unescape_reads_spellings :
    (∀ segment raw value offset, unescape segment raw offset = .ok value ↔ Spelling raw.toList value.toList) ∧
      (∀ write, Writer write ↔ ∀ segment value offset, unescape segment (write value) offset = .ok value) ∧
      Writer escape := by
  have read (segment raw value : String) (offset : Int) :
      unescape segment raw offset = .ok value ↔ Spelling raw.toList value.toList := by
    rw [← readValue_eq_ok_iff_spelling, unescape]
    cases readValue raw.toList with
    | error place => simp
    | ok found => simp [← String.toList_inj]
  refine ⟨read, fun write => ?_, fun value => ?_⟩
  · simp only [read, Writer, forall_const]
  · rw [toList_escape]
    exact spelling_escape value.toList

/-- All three ways in one text, with a character that is escaped in small and in capital digits and once not at
all, and a backslash that stands for itself. -/
example : unescape "k" "a\\;%c3%A9é%5C\\x" 0 = .ok "a;éé\\\\x" := by rfl

end Depot.Connection
