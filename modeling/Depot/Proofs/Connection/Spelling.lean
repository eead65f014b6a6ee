import Depot.Proofs.Connection.Scan
import Mathlib.Tactic.SplitIfs

namespace Depot.Connection

def HexDigit (c : Char) (value : Nat) : Prop :=
  value < 16 ∧ (c = Text.hexDigit value ∨ c = Text.hexDigitUpper value)

/-- The bytes of a text whose percent escapes stand for one byte each. -/
inductive Octets : List Char → Bytes → Prop
  | nil : Octets [] []
  | escape {a b : Char} {high low : Nat} {rest : List Char} {bytes : Bytes} (first : HexDigit a high)
      (second : HexDigit b low) (more : Octets rest bytes) :
      Octets ('%' :: a :: b :: rest) (UInt8.ofNat (16 * high + low) :: bytes)
  | plain {c : Char} {rest : List Char} {bytes : Bytes} (bare : c ≠ '%') (more : Octets rest bytes) :
      Octets (c :: rest) (String.utf8EncodeChar c ++ bytes)

/-- What characters that stand alone spell. Each part in ASCII is decoded by itself. -/
inductive Stretch : List Char → List Char → Prop
  | last {run text : List Char} (ascii : ∀ c ∈ run, c.toNat < 0x80)
      (octets : Octets run (Utf8.encode (String.ofList text))) : Stretch run text
  | wide {run text rest value : List Char} {c : Char} (ascii : ∀ c ∈ run, c.toNat < 0x80)
      (octets : Octets run (Utf8.encode (String.ofList text))) (wide : 0x80 ≤ c.toNat)
      (more : Stretch rest value) : Stretch (run ++ c :: rest) (text ++ c :: value)

/-- What the tokens of a text spell. Each stretch between protected characters is read by itself. -/
inductive Spells : List Token → List Char → Prop
  | last {run text : List Char} (stretch : Stretch run text) : Spells (run.map .single) text
  | guarded {run text value : List Char} {c : Char} {rest : List Token} (stretch : Stretch run text)
      (more : Spells rest value) : Spells (run.map .single ++ .guarded c :: rest) (text ++ c :: value)

/-- What is read from a digit, and what it is not. -/
theorem HexDigit.read {c : Char} {value : Nat} (digit : HexDigit c value) :
    Text.hexValue? c = some value ∧ c.toNat < 0x80 ∧ c ≠ '\\' := by
  have lower : ∀ n < 16, Text.hexValue? (Text.hexDigit n) = some n ∧ (Text.hexDigit n).toNat < 0x80 ∧
      Text.hexDigit n ≠ '\\' := by decide
  have upper : ∀ n < 16, Text.hexValue? (Text.hexDigitUpper n) = some n ∧ (Text.hexDigitUpper n).toNat < 0x80 ∧
      Text.hexDigitUpper n ≠ '\\' := by decide
  obtain ⟨small, rfl | rfl⟩ := digit
  · exact lower value small
  · exact upper value small

theorem HexDigit.ascii {c : Char} {value : Nat} (digit : HexDigit c value) : c.toNat < 0x80 := digit.read.2.1

theorem HexDigit.not_guards {c : Char} {value : Nat} (digit : HexDigit c value) (rest : List Char) :
    ¬ Guards c rest :=
  Connection.not_guards digit.read.2.2 rest

theorem hexValue?_eq_some_iff {c : Char} {value : Nat} : Text.hexValue? c = some value ↔ HexDigit c value := by
  constructor
  · intro read
    have same : Char.ofNat c.toNat = c := Char.ofNat_toNat c
    unfold Text.hexValue? at read
    simp only [Char.le_def, UInt32.le_iff_toNat_le] at read
    have code : c.val.toNat = c.toNat := rfl
    simp only [code, show '0'.val.toNat = 48 from rfl, show '9'.val.toNat = 57 from rfl,
      show 'a'.val.toNat = 97 from rfl, show 'f'.val.toNat = 102 from rfl, show 'A'.val.toNat = 65 from rfl,
      show 'F'.val.toNat = 70 from rfl] at read
    unfold HexDigit Text.hexDigit Text.hexDigitUpper
    split_ifs at read with decimal small capital
    · cases read
      refine ⟨by omega, Or.inl ?_⟩
      rw [if_pos (by omega), show 0x30 + (c.toNat - 0x30) = c.toNat by omega, same]
    · cases read
      refine ⟨by omega, Or.inl ?_⟩
      rw [if_neg (by omega), show 0x57 + (c.toNat - 0x57) = c.toNat by omega, same]
    · cases read
      refine ⟨by omega, Or.inr ?_⟩
      rw [if_neg (by omega), show 0x37 + (c.toNat - 0x37) = c.toNat by omega, same]
  · exact fun digit => digit.read.1

theorem hexPair?_eq_some_iff {a b : Char} {octet : UInt8} : hexPair? a b = some octet ↔
    ∃ high low, HexDigit a high ∧ HexDigit b low ∧ octet = UInt8.ofNat (16 * high + low) := by
  simp only [← hexValue?_eq_some_iff, hexPair?]
  cases Text.hexValue? a <;> cases Text.hexValue? b <;> simp [eq_comm]

theorem Octets.append {left right : List Char} {before after : Bytes} (first : Octets left before)
    (second : Octets right after) : Octets (left ++ right) (before ++ after) := by
  induction first with
  | nil => exact second
  | escape high low _ ih => exact .escape high low ih
  | plain bare _ ih =>
    rw [List.append_assoc]
    exact .plain bare ih

/-- The bytes of a text can be cut at a character outside ASCII, which belongs to no escape. -/
theorem Octets.cut {front rest : List Char} {c : Char} {bytes : Bytes} (octets : Octets (front ++ c :: rest) bytes)
    (wide : 0x80 ≤ c.toNat) : ∃ left right, bytes = left ++ (String.utf8EncodeChar c ++ right) ∧
      Octets front left ∧ Octets rest right := by
  generalize whole : front ++ c :: rest = run at octets
  induction octets generalizing front with
  | nil => exact absurd whole (by simp)
  | @escape a b _ _ _ _ first second more ih =>
    match front, whole with
    | [], shape =>
      cases shape
      exact absurd wide (by decide)
    | [_], shape =>
      cases shape
      exact absurd first.ascii (by omega)
    | [_, _], shape =>
      cases shape
      exact absurd second.ascii (by omega)
    | x :: y :: z :: front, shape =>
      simp only [List.cons_append, List.cons.injEq] at shape
      obtain ⟨rfl, rfl, rfl, others⟩ := shape
      obtain ⟨left, right, rfl, before, after⟩ := ih others
      exact ⟨_ :: left, right, rfl, .escape first second before, after⟩
  | @plain d _ _ bare more ih =>
    match front, whole with
    | [], shape =>
      cases shape
      exact ⟨[], _, rfl, .nil, more⟩
    | x :: front, shape =>
      simp only [List.cons_append, List.cons.injEq] at shape
      obtain ⟨rfl, others⟩ := shape
      obtain ⟨left, right, rfl, before, after⟩ := ih others
      exact ⟨_ ++ left, right, (List.append_assoc ..).symm, .plain bare before, after⟩

/-- Whether a stretch is decoded as a whole or each part in ASCII by itself does not matter. -/
theorem stretch_iff {run text : List Char} :
    Stretch run text ↔ Octets run (text.flatMap String.utf8EncodeChar) := by
  constructor
  · intro stretch
    induction stretch with
    | last _ octets => exact Utf8.encode_ofList _ ▸ octets
    | wide _ octets wide _ ih =>
      rw [List.flatMap_append, List.flatMap_cons]
      refine Octets.append (Utf8.encode_ofList _ ▸ octets) (.plain ?_ ih)
      rintro rfl
      exact absurd wide (by decide)
  · intro octets
    -- The first character outside ASCII ends the first part, and what stands behind it is shorter.
    induction size : run.length using Nat.strongRecOn generalizing run text with
    | ind n ih =>
      cases found : run.find? fun c => 0x80 ≤ c.toNat with
      | none =>
        refine .last (fun c member => ?_) (Utf8.encode_ofList text ▸ octets)
        simpa using List.find?_eq_none.mp found c member
      | some c =>
        obtain ⟨wide, front, rest, rfl, ascii⟩ := List.find?_eq_some_iff_append.mp found
        have wide : 0x80 ≤ c.toNat := by simpa using wide
        obtain ⟨left, right, bytes, before, after⟩ := octets.cut wide
        obtain ⟨start, more, rfl, rfl, rfl⟩ := Utf8.exists_char bytes
        refine .wide (fun c member => ?_) (Utf8.encode_ofList start ▸ before) wide (ih _ ?_ after rfl)
        · simpa using ascii c member
        · simp only [List.length_append, List.length_cons] at size
          omega

theorem closeRun_eq_ok_iff {start : Nat} {run : Bytes} {text : List Char} :
    closeRun start run = .ok text ↔ text.flatMap String.utf8EncodeChar = run.reverse := by
  constructor
  · intro closed
    unfold closeRun at closed
    split at closed
    · rename_i s decoded
      cases closed
      rw [← Utf8.encode_ofList, String.ofList_toList]
      exact Utf8.encode_of_decode? decoded
    · cases closed
  · intro whole
    rw [← List.reverse_reverse run, ← whole, closeRun_encode]

theorem pieces_guarded {c : Char} (quotable : c ∈ [';', '=', '\\']) (rest : List Char) :
    pieces ('\\' :: c :: rest) = .guarded c :: pieces rest := by
  rw [pieces, if_pos (isQuotable_iff.mpr quotable)]

theorem pieces_escape_octet {a b : Char} {high low : Nat} (first : HexDigit a high) (second : HexDigit b low)
    (rest : List Char) :
    pieces ('%' :: a :: b :: rest) = .octet (UInt8.ofNat (16 * high + low)) :: pieces rest := by
  have pair := hexPair?_eq_some_iff.mpr ⟨high, low, first, second, rfl⟩
  simp only [pieces, pair]

theorem pieces_plain {c : Char} {rest : List Char} (bare : c ≠ '%') (alone : ¬ Guards c rest) :
    pieces (c :: rest) = .plain c :: pieces rest := by
  by_cases slash : c = '\\'
  · subst slash
    cases rest with
    | nil => rfl
    | cons d more =>
      rw [pieces, if_neg fun quotable => alone ⟨rfl, d, more, rfl, isQuotable_iff.mp quotable⟩]
  · rw [pieces]
    · exact fun _ _ same _ => slash same
    · exact fun _ _ _ same _ => bare same
    · exact bare

/-- What tokens spell behind bytes that have been collected since the last protected character. -/
inductive Continues (pending : Bytes) : List Token → List Char → Prop
  | last {run text : List Char} {bytes : Bytes} (octets : Octets run bytes)
      (whole : text.flatMap String.utf8EncodeChar = pending ++ bytes) : Continues pending (run.map .single) text
  | guarded {run text value : List Char} {bytes : Bytes} {c : Char} {rest : List Token}
      (octets : Octets run bytes) (whole : text.flatMap String.utf8EncodeChar = pending ++ bytes)
      (more : Spells rest value) : Continues pending (run.map .single ++ .guarded c :: rest) (text ++ c :: value)

namespace Continues

variable {pending : Bytes} {tokens : List Token} {value : List Char}

theorem spells (continues : Continues [] tokens value) : Spells tokens value := by
  cases continues with
  | last octets whole => exact .last (stretch_iff.mpr (whole ▸ octets))
  | guarded octets whole more => exact .guarded (stretch_iff.mpr (whole ▸ octets)) more

theorem plain {c : Char} (bare : c ≠ '%')
    (continues : Continues (pending ++ String.utf8EncodeChar c) tokens value) :
    Continues pending (.single c :: tokens) value := by
  cases continues with
  | last octets whole => exact .last (.plain bare octets) (whole.trans (List.append_assoc ..))
  | guarded octets whole more => exact .guarded (.plain bare octets) (whole.trans (List.append_assoc ..)) more

theorem escape {a b : Char} {high low : Nat} (first : HexDigit a high) (second : HexDigit b low)
    (continues : Continues (pending ++ [UInt8.ofNat (16 * high + low)]) tokens value) :
    Continues pending (.single '%' :: .single a :: .single b :: tokens) value := by
  cases continues with
  | last octets whole =>
    exact .last (.escape first second octets) (whole.trans (List.append_assoc pending [_] _))
  | guarded octets whole more =>
    exact .guarded (.escape first second octets) (whole.trans (List.append_assoc pending [_] _)) more

end Continues

/-- The run is collected in reverse, since the last protected character. -/
theorem continues_of_joinFrom {start position : Nat} {run : Bytes} {raw value : List Char}
    (joined : joinFrom start position run (pieces raw) = .ok value) :
    Continues run.reverse (scan raw) value := by
  fun_induction pieces raw generalizing start position run value with
  | case1 =>
    exact .last .nil ((closeRun_eq_ok_iff.mp joined).trans (List.append_nil _).symm)
  | case2 c rest quotable ih =>
    rw [scan_guarded (isQuotable_iff.mp quotable)]
    simp only [joinFrom] at joined
    split at joined
    · cases joined
    · rename_i before closed
      split at joined
      · cases joined
      · rename_i after read
        cases joined
        exact .guarded .nil ((closeRun_eq_ok_iff.mp closed).trans (List.append_nil _).symm) (ih read).spells
  | case3 c rest bare ih =>
    rw [scan_single (not_guards_of_bare bare rest)]
    have later := ih joined
    rw [List.reverse_append, List.reverse_reverse] at later
    exact .plain (by decide) later
  | case4 a b rest octet pair ih =>
    obtain ⟨high, low, first, second, rfl⟩ := hexPair?_eq_some_iff.mp pair
    rw [scan_single (not_guards (by decide) _), scan_single (first.not_guards _),
      scan_single (second.not_guards _)]
    have later := ih joined
    rw [List.reverse_cons] at later
    exact .escape first second later
  | case5 => cases joined
  | case6 => cases joined
  | case7 c rest notQuoting notEscape notPercent ih =>
    rw [scan_single (not_guards_of_alone notQuoting)]
    have later := ih joined
    rw [List.reverse_append, List.reverse_reverse] at later
    exact .plain notPercent later

/-- Characters that stand alone are read into the run that is being collected. -/
theorem Octets.joinFrom_eq {run raw : List Char} {bytes : Bytes} {tail : List Token} (octets : Octets run bytes)
    (scanned : scan raw = run.map .single ++ tail) :
    ∃ rest, scan rest = tail ∧ ∀ start position before, joinFrom start position before (pieces raw) =
      joinFrom start (position + run.length) (bytes.reverse ++ before) (pieces rest) := by
  induction octets generalizing raw with
  | nil => exact ⟨raw, scanned, fun _ _ _ => rfl⟩
  | @escape a b high low rest bytes first second more ih =>
    obtain ⟨afterSign, rfl, scanned, -⟩ := of_scan_single scanned
    obtain ⟨afterFirst, rfl, scanned, -⟩ := of_scan_single scanned
    obtain ⟨afterSecond, rfl, scanned, -⟩ := of_scan_single scanned
    obtain ⟨rest, atTail, same⟩ := ih scanned
    refine ⟨rest, atTail, fun start position before => ?_⟩
    rw [pieces_escape_octet first second, joinFrom, same, List.reverse_cons, List.append_assoc]
    simp only [List.length_cons, List.singleton_append]
    congr 1
    omega
  | @plain c rest bytes bare more ih =>
    obtain ⟨after, rfl, scanned, alone⟩ := of_scan_single scanned
    obtain ⟨rest, atTail, same⟩ := ih scanned
    refine ⟨rest, atTail, fun start position before => ?_⟩
    rw [pieces_plain bare alone, joinFrom, same, List.reverse_append, List.append_assoc]
    simp only [List.length_cons]
    congr 1
    omega

theorem joinFrom_of_spells {tokens : List Token} {raw value : List Char} (spells : Spells tokens value)
    (scanned : scan raw = tokens) (position : Nat) :
    joinFrom position position [] (pieces raw) = .ok value := by
  induction spells generalizing raw position with
  | last stretch =>
    obtain ⟨rest, atEnd, same⟩ := (stretch_iff.mp stretch).joinFrom_eq (scanned.trans (List.append_nil _).symm)
    rw [same, of_scan_nil atEnd, List.append_nil]
    exact closeRun_encode _ _
  | guarded stretch more ih =>
    obtain ⟨rest, atMark, same⟩ := (stretch_iff.mp stretch).joinFrom_eq scanned
    obtain ⟨after, rfl, later, quotable⟩ := of_scan_guarded atMark
    rw [same, pieces_guarded quotable, joinFrom, List.append_nil, closeRun_encode]
    simp only [ih later]

/-- A text is read as a value exactly when it spells that value. -/
theorem readValue_eq_ok_iff {raw value : List Char} : readValue raw = .ok value ↔ Spells (scan raw) value :=
  ⟨fun read => (continues_of_joinFrom read).spells, fun spells => joinFrom_of_spells spells rfl 0⟩

end Depot.Connection
