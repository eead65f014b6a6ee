import Depot.Proofs.Connection.Parts
import Depot.Proofs.Connection.Spelling

namespace Depot.Connection

/-- A key is a word of letters, digits, dots, underscores and hyphens. -/
def Word (key : List Char) : Prop :=
  key ≠ [] ∧ ∀ c ∈ key, ('A' ≤ c ∧ c ≤ 'Z') ∨ ('a' ≤ c ∧ c ≤ 'z') ∨ ('0' ≤ c ∧ c ≤ '9') ∨ c ∈ ['.', '_', '-']

/-- What a segment is read as. The equals sign is the first, since a key has none. -/
inductive SegmentForm : List Char → String × String → Prop
  | bare {key : List Char} (word : Word key) : SegmentForm key (String.ofList key, "")
  | given {key raw value : List Char} (word : Word key) (spells : Spells (scan raw) value) :
      SegmentForm (key ++ '=' :: raw) (String.ofList key, String.ofList value)

/-- How a segment is refused: for its key, or for the value behind a good key. -/
inductive SegmentFlaw (segment : List Char) : Failure → Prop
  | noKey (empty : segment.takeWhile (· ≠ '=') = []) :
      SegmentFlaw segment (.malformedSegment (String.ofList segment) "key is empty")
  | badKey (nonempty : segment.takeWhile (· ≠ '=') ≠ []) (bad : ¬ Word (segment.takeWhile (· ≠ '='))) :
      SegmentFlaw segment (.malformedSegment (String.ofList segment)
        "key may only contain letters, digits, '.', '_' and '-'")
  | badValue {key raw : List Char} (position : Int) (whole : segment = key ++ '=' :: raw) (word : Word key)
      (bad : ∀ value, ¬ Spells (scan raw) value) :
      SegmentFlaw segment (.unescapedDelimiter (String.ofList segment) position)

/-- The segments of a list that are not empty. -/
def filled (body : List Char) : List (List Char) := (cuts body).filter (· ≠ [])

/-- A text is cut at its first separator. -/
def FirstSeparator (text : String) (scheme rest : List Char) : Prop :=
  text.toList = scheme ++ (separator ++ rest) ∧
    ∀ before after, text.toList = before ++ (separator ++ after) → scheme.length ≤ before.length

/-- The three forms of a text, each with what it is read as. -/
inductive Form (text : String) : Parts → Prop
  | whole (clear : ¬ separator <:+: text.toList) : Form text ⟨"", [], some text⟩
  | native {scheme raw : List Char} (first : FirstSeparator text scheme ("native=".toList ++ raw))
      (nonempty : scheme ≠ []) :
      Form text ⟨String.ofList scheme, [("native", String.ofList raw)], some (String.ofList raw)⟩
  | parameters {scheme body : List Char} {pairs : List (String × String)}
      (first : FirstSeparator text scheme body) (nonempty : scheme ≠ []) (unmarked : ¬ "native=".toList <+: body)
      (each : List.Forall₂ SegmentForm (filled body) pairs) : Form text ⟨String.ofList scheme, pairs, none⟩

/-- What is wrong with a text of none of these forms: its scheme is empty, or a segment is bad and all before it
are good. -/
inductive Flaw (text : String) : Failure → Prop
  | scheme {rest : List Char} (first : FirstSeparator text [] rest) :
      Flaw text (.malformedSegment "://" "prefix is empty")
  | segment {scheme body bad : List Char} {before after : List (List Char)} {e : Failure}
      (first : FirstSeparator text scheme body) (nonempty : scheme ≠ []) (unmarked : ¬ "native=".toList <+: body)
      (split : filled body = before ++ bad :: after) (good : ∀ segment ∈ before, ∃ pair, SegmentForm segment pair)
      (flaw : SegmentFlaw bad e) : Flaw text e

theorem isKeyChar_iff {c : Char} : isKeyChar c ↔
    ('A' ≤ c ∧ c ≤ 'Z') ∨ ('a' ≤ c ∧ c ≤ 'z') ∨ ('0' ≤ c ∧ c ≤ '9') ∨ c ∈ ['.', '_', '-'] := by
  have between (low high : Char) : (low.val ≤ c.val && c.val ≤ high.val) = true ↔ low ≤ c ∧ c ≤ high := by
    rw [Bool.and_eq_true, decide_eq_true_eq, decide_eq_true_eq, Char.le_def, Char.le_def]
  have upper : c.isUpper ↔ 'A' ≤ c ∧ c ≤ 'Z' := decide_eq_true_iff
  have lower : c.isLower ↔ 'a' ≤ c ∧ c ≤ 'z' := between 'a' 'z'
  have digit : c.isDigit ↔ '0' ≤ c ∧ c ≤ '9' := between '0' '9'
  have alphanum : c.isAlphanum = (c.isUpper || c.isLower || c.isDigit) := rfl
  simp [isKeyChar, alphanum, upper, lower, digit, or_assoc]

theorem isKey_ofList_iff {key : List Char} : isKey (String.ofList key) ↔ Word key := by
  rw [isKey_iff, String.toList_ofList, Word]
  simp only [isKeyChar_iff, ne_eq, String.ofList_eq_empty_iff]

theorem Word.noEquals {key : List Char} (word : Word key) : ∀ c ∈ key, c ≠ '=' := fun c member =>
  (isKeyChar_bare (isKeyChar_iff.mpr (word.2 c member))).2

theorem splitKey_bare {key : List Char} (noEquals : ∀ c ∈ key, c ≠ '=') : splitKey key = (key, none) := by
  induction key with
  | nil => rfl
  | cons c rest ih =>
    obtain ⟨atHead, inTail⟩ := List.forall_mem_cons.mp noEquals
    rw [splitKey, ih inTail]
    exact atHead

theorem splitKey_fst (segment : List Char) : (splitKey segment).1 = segment.takeWhile (· ≠ '=') := by
  fun_induction splitKey segment with
  | case1 => rfl
  | case2 rest => rfl
  | case3 c rest other key value split ih =>
    rw [List.takeWhile_cons_of_pos (by simpa using other), ← ih, split]

/-- A segment is a key alone, or it has a first equals sign. -/
theorem key_cases (segment : List Char) : (∀ c ∈ segment, c ≠ '=') ∨
    ∃ key raw, segment = key ++ '=' :: raw ∧ ∀ c ∈ key, c ≠ '=' := by
  by_cases equals : '=' ∈ segment
  · obtain ⟨key, raw, whole, absent⟩ := List.eq_append_cons_of_mem equals
    exact Or.inr ⟨key, raw, whole, fun c member same => absent (same ▸ member)⟩
  · exact Or.inl fun c member same => equals (same ▸ member)

/-- A text is read as the value that it spells, or it spells none. -/
theorem unescape_cases (segment : String) (raw : List Char) (offset : Int) :
    (∃ value, Spells (scan raw) value ∧ unescape segment (String.ofList raw) offset = .ok (String.ofList value)) ∨
      ∃ position, (∀ value, ¬ Spells (scan raw) value) ∧
        unescape segment (String.ofList raw) offset = .error (.unescapedDelimiter segment position) := by
  simp only [← readValue_eq_ok_iff, unescape, String.toList_ofList]
  cases readValue raw with
  | ok value => exact Or.inl ⟨value, rfl, rfl⟩
  | error place => exact Or.inr ⟨_, fun _ => by simp, rfl⟩

theorem readSegment_noKey {segment : List Char} (empty : (splitKey segment).1 = []) :
    readSegment segment = .error (.malformedSegment (String.ofList segment) "key is empty") := by
  simp [readSegment, empty]

theorem readSegment_badKey {segment : List Char} (nonempty : (splitKey segment).1 ≠ [])
    (bad : ¬ Word (splitKey segment).1) : readSegment segment = .error (.malformedSegment (String.ofList segment)
      "key may only contain letters, digits, '.', '_' and '-'") := by
  have invalid : isKey (String.ofList (splitKey segment).1) = false := by
    simpa using mt isKey_ofList_iff.mp bad
  simp [readSegment, nonempty, invalid]

theorem readSegment_bare {key : List Char} (word : Word key) :
    readSegment key = .ok (String.ofList key, "") := by
  simp [readSegment, splitKey_bare word.noEquals, word.1, isKey_ofList_iff.mpr word]

theorem readSegment_given {key : List Char} (word : Word key) (raw : List Char) :
    readSegment (key ++ '=' :: raw) =
      (unescape (String.ofList (key ++ '=' :: raw)) (String.ofList raw) (key.length + 1)).map
        fun value => (String.ofList key, value) := by
  simp [readSegment, splitKey_append word.noEquals, word.1, isKey_ofList_iff.mpr word]

/-- A segment has the form of what it is read as, or a flaw for which it is refused. -/
theorem readSegment_cases (segment : List Char) :
    (∃ pair, SegmentForm segment pair ∧ readSegment segment = .ok pair) ∨
      ∃ e, SegmentFlaw segment e ∧ readSegment segment = .error e := by
  have key := splitKey_fst segment
  by_cases empty : (splitKey segment).1 = []
  · exact Or.inr ⟨_, .noKey (key ▸ empty), readSegment_noKey empty⟩
  by_cases word : Word (splitKey segment).1
  · rcases key_cases segment with noEquals | ⟨name, raw, rfl, noEquals⟩
    · rw [splitKey_bare noEquals] at word
      exact Or.inl ⟨_, .bare word, readSegment_bare word⟩
    · rw [splitKey_append noEquals] at word
      have given := readSegment_given word raw
      rcases unescape_cases (String.ofList (name ++ '=' :: raw)) raw (name.length + 1) with
        ⟨value, spells, read⟩ | ⟨position, bad, refused⟩
      · exact Or.inl ⟨_, .given word spells, by rw [given, read]; rfl⟩
      · exact Or.inr ⟨_, .badValue position rfl word bad, by rw [given, refused]; rfl⟩
  · exact Or.inr ⟨_, .badKey (key ▸ empty) (key ▸ word), readSegment_badKey empty word⟩

theorem readSegment_of_form {segment : List Char} {pair : String × String} (form : SegmentForm segment pair) :
    readSegment segment = .ok pair := by
  rcases form with ⟨word⟩ | @⟨key, raw, value, word, spells⟩
  · exact readSegment_bare word
  · have read := readValue_eq_ok_iff.mpr spells
    rw [readSegment_given word, unescape, String.toList_ofList, read]
    rfl

theorem form_of_readSegment {segment : List Char} {pair : String × String}
    (read : readSegment segment = .ok pair) : SegmentForm segment pair := by
  rcases readSegment_cases segment with ⟨other, form, same⟩ | ⟨e, _, refused⟩
  · cases read.symm.trans same
    exact form
  · cases read.symm.trans refused

theorem flaw_of_readSegment {segment : List Char} {e : Failure} (refused : readSegment segment = .error e) :
    SegmentFlaw segment e := by
  rcases readSegment_cases segment with ⟨pair, _, read⟩ | ⟨other, flaw, same⟩
  · cases refused.symm.trans read
  · cases refused.symm.trans same
    exact flaw

/-- Empty segments are passed beyond, and the others are read one after another. -/
theorem readSegments_eq_mapM (ss : List Segment) :
    readSegments ss = ((ss.map Segment.text).filter (· ≠ [])).mapM readSegment := by
  induction ss with
  | nil => rfl
  | cons s rest ih =>
    rw [readSegments, List.map_cons, ih]
    by_cases empty : s.text = []
    · rw [List.filter_cons_of_neg (by simpa using empty), if_pos (List.isEmpty_iff.mpr empty)]
    · rw [List.filter_cons_of_pos (by simpa using empty), if_neg (mt List.isEmpty_iff.mp empty), List.mapM_cons]
      cases readSegment s.text with
      | error e => rfl
      | ok pair => cases ((rest.map Segment.text).filter (· ≠ [])).mapM readSegment <;> rfl

theorem readSegments_segments (body : List Char) :
    readSegments (segments body) = (filled body).mapM readSegment := by
  rw [readSegments_eq_mapM, segments, texts_segmentsFrom, filled]

theorem splitScheme?_eq_none_iff {text : List Char} : splitScheme? text = none ↔ ¬ separator <:+: text := by
  constructor
  · intro absent
    induction text with
    | nil => simp [separator]
    | cons c rest ih =>
      by_cases begins : separator <+: c :: rest
      · obtain ⟨after, same⟩ := begins
        rw [← same, splitScheme?_separator] at absent
        cases absent
      · rw [splitScheme?_cons begins, Option.map_eq_none_iff] at absent
        rw [List.infix_cons_iff]
        exact fun inside => inside.elim begins (ih absent)
  · intro clear
    cases split : splitScheme? text with
    | none => rfl
    | some found =>
      obtain ⟨whole, -⟩ := eq_of_splitScheme? split
      exact absurd ⟨found.1, found.2, by rw [whole, List.append_assoc]⟩ clear

theorem splitScheme?_eq_some_iff {text : String} {scheme rest : List Char} :
    splitScheme? text.toList = some (scheme, rest) ↔ FirstSeparator text scheme rest := by
  constructor
  · intro split
    obtain ⟨whole, clear⟩ := eq_of_splitScheme? split
    refine ⟨whole, fun before after same => ?_⟩
    rw [whole, List.append_eq_append_iff] at same
    rcases same with ⟨beyond, rfl, -⟩ | ⟨beyond, rfl, inside⟩
    · simp
    · -- A separator that begins before the end of the scheme would lie within it.
      by_cases atEnd : beyond = []
      · simp [atEnd]
      · have within := prefix_of_prefix_append atEnd ⟨after, inside⟩
        exact absurd (within.isInfix.trans (List.suffix_append before beyond).isInfix) clear
  · rintro ⟨whole, first⟩
    rw [whole]
    refine splitScheme?_append ?_ rest
    rintro ⟨before, after, rfl⟩
    have early := first before (after ++ (separator ++ rest)) (by rw [whole]; simp only [List.append_assoc])
    simp only [List.length_append, separator, List.length_cons] at early
    omega

theorem read_noScheme {text : String} {rest : List Char} (split : splitScheme? text.toList = some ([], rest)) :
    Parts.read text = .error (.malformedSegment "://" "prefix is empty") := by
  simp only [Parts.read, split]

/-- Behind a scheme, the segments that are not empty are read one after another. -/
theorem read_filled {scheme body : List Char} {text : String} (nonempty : scheme ≠ [])
    (split : splitScheme? text.toList = some (scheme, body)) (unmarked : ¬ nativeMarker <+: body) :
    Parts.read text = ((filled body).mapM readSegment).map fun pairs => ⟨String.ofList scheme, pairs, none⟩ := by
  rw [read_parameters nonempty split unmarked, readSegments_segments]

theorem read_of_form {text : String} {parts : Parts} (form : Form text parts) : Parts.read text = .ok parts := by
  rcases form with clear | ⟨first, nonempty⟩ | ⟨first, nonempty, unmarked, each⟩
  · exact read_of_no_scheme (splitScheme?_eq_none_iff.mpr clear)
  · exact read_native nonempty (splitScheme?_eq_some_iff.mpr first)
  · have read := Outcome.mapM_eq_ok_iff.mpr (each.imp fun _ _ => readSegment_of_form)
    rw [read_filled nonempty (splitScheme?_eq_some_iff.mpr first) unmarked, read]
    rfl

theorem form_of_read {text : String} {parts : Parts} (read : Parts.read text = .ok parts) : Form text parts := by
  rcases read_cases read with ⟨absent, rfl⟩ | ⟨scheme, raw, nonempty, split, rfl⟩ |
    ⟨scheme, body, pairs, nonempty, split, unmarked, each, rfl⟩
  · exact .whole (splitScheme?_eq_none_iff.mp absent)
  · exact .native (splitScheme?_eq_some_iff.mp split) nonempty
  · rw [readSegments_segments, Outcome.mapM_eq_ok_iff] at each
    exact .parameters (splitScheme?_eq_some_iff.mp split) nonempty unmarked
      (each.imp fun _ _ => form_of_readSegment)

theorem flaw_of_read {text : String} {e : Failure} (refused : Parts.read text = .error e) : Flaw text e := by
  cases split : splitScheme? text.toList with
  | none => cases refused.symm.trans (read_of_no_scheme split)
  | some found =>
    obtain ⟨scheme, body⟩ := found
    have first := splitScheme?_eq_some_iff.mp split
    by_cases empty : scheme = []
    · subst empty
      cases refused.symm.trans (read_noScheme split)
      exact .scheme first
    by_cases marked : nativeMarker <+: body
    · obtain ⟨raw, rfl⟩ := marked
      cases refused.symm.trans (read_native empty split)
    · rw [read_filled empty split marked, Outcome.map_eq_error_iff] at refused
      obtain ⟨before, bad, after, whole, good, flaw⟩ := Outcome.exists_of_mapM_eq_error refused
      refine .segment first empty marked whole (fun segment member => ?_) (flaw_of_readSegment flaw)
      obtain ⟨pair, read⟩ := good segment member
      exact ⟨pair, form_of_readSegment read⟩

/-- The texts that are read are those of one of the three forms, and they are read as what the form says. Any
other is refused for an empty scheme or for its first bad segment. -/
theorem accepted_by_form (text : String) :
    (∀ parts, Parts.read text = .ok parts ↔ Form text parts) ∧
      ∀ e, Parts.read text = .error e → Flaw text e :=
  ⟨fun _ => ⟨form_of_read, read_of_form⟩, fun _ => flaw_of_read⟩

/-- A protected semicolon, escapes that make one character, an empty segment, a bare key and a second equals sign
are accepted; of two bad segments the first decides. -/
theorem accepted_by_form_escaped :
    Form "s3://a=x\\;%C3%A9;;b;c=1=2" ⟨"s3", [("a", "x;é"), ("b", ""), ("c", "1=2")], none⟩ ∧
      Flaw "s3://ok;a=%C3;=x" (.unescapedDelimiter "a=%C3" 2) :=
  ⟨((accepted_by_form _).1 _).mp (by rfl), (accepted_by_form _).2 _ (by rfl)⟩

end Depot.Connection
