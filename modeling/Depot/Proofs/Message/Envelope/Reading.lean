import Depot.Proofs.Message.Envelope.Writing

namespace Depot.Envelope

variable {n : Nat} {data : Bytes} {cursor next : Cursor}

theorem wordOf_lt (a b c d : UInt8) : wordOf a b c d < wordLimit := by
  have first := a.toNat_lt
  have second := b.toNat_lt
  have third := c.toNat_lt
  have fourth := d.toNat_lt
  have limit : wordLimit = 4294967296 := rfl
  simp only [wordOf]
  omega

theorem word_wordOf (a b c d : UInt8) : word (wordOf a b c d) = [a, b, c, d] := by
  have first := a.toNat_lt
  have second := b.toNat_lt
  have third := c.toNat_lt
  have fourth := d.toNat_lt
  have digit {n : Nat} {x : UInt8} (same : n % 256 = x.toNat) : n.toUInt8 = x := by
    rw [← UInt8.toNat_inj, Nat.toUInt8, UInt8.toNat_ofNat', same]
  simp only [word, wordOf, List.cons.injEq, and_true]
  refine ⟨digit ?_, digit ?_, digit ?_, digit ?_⟩ <;> omega

theorem readWord_eq_ok (run : readWord cursor = .ok (n, next)) :
    n < wordLimit ∧ cursor.rest = word n ++ next.rest := by
  unfold readWord at run
  split at run
  · rename_i a b c d rest same
    cases run
    exact ⟨wordOf_lt a b c d, by rw [same, word_wordOf]; rfl⟩
  · cases run

theorem readField_eq_ok (run : readField cursor = .ok (data, next)) :
    data.length < wordLimit ∧ cursor.rest = field data ++ next.rest := by
  obtain ⟨⟨length, middle⟩, before, taken⟩ := Outcome.bind_eq_ok_iff.mp run
  obtain ⟨small, start⟩ := readWord_eq_ok before
  simp only [] at taken
  split at taken
  · cases taken
  · rename_i whole
    cases taken
    have exact_length : (middle.rest.take length).length = length :=
      Nat.le_antisymm (List.length_take_le _ _) (Nat.not_lt.mp whole)
    refine ⟨exact_length.symm ▸ small, ?_⟩
    rw [start, field, exact_length, List.append_assoc, List.take_append_drop]

theorem textOf_eq_ok {s : String} (run : textOf data = .ok s) : Utf8.encode s = data := by
  unfold textOf Utf8.decode at run
  split at run
  · rename_i decoded
    cases run
    exact Utf8.encode_of_decode? decoded
  · cases run

/-- Properties that have been read are the fields that stand there, written one after another into a table. -/
theorem readProperties_eq_ok {count : Nat} {read result : Table String String}
    (run : readProperties count read cursor = .ok result) :
    ∃ entries rest, entries.length = count ∧ cursor.rest = propertyFields entries ++ rest ∧
      (∀ e ∈ entries, (Utf8.encode e.1).length < wordLimit ∧ (Utf8.encode e.2).length < wordLimit) ∧
      result = read.putAll entries := by
  induction count generalizing read cursor with
  | zero =>
    cases run
    exact ⟨[], cursor.rest, rfl, rfl, List.forall_mem_nil _, rfl⟩
  | succ count ih =>
    obtain ⟨⟨rawKey, afterKey⟩, keyRun, run⟩ := Outcome.bind_eq_ok_iff.mp run
    obtain ⟨⟨rawValue, afterValue⟩, valueRun, run⟩ := Outcome.bind_eq_ok_iff.mp run
    obtain ⟨value, valueText, run⟩ := Outcome.bind_eq_ok_iff.mp run
    obtain ⟨key, keyText, run⟩ := Outcome.bind_eq_ok_iff.mp run
    obtain ⟨keySmall, keyPlace⟩ := readField_eq_ok keyRun
    obtain ⟨valueSmall, valuePlace⟩ := readField_eq_ok valueRun
    rw [← textOf_eq_ok keyText] at keySmall keyPlace
    rw [← textOf_eq_ok valueText] at valueSmall valuePlace
    obtain ⟨entries, rest, length, place, small, rfl⟩ := ih run
    refine ⟨(key, value) :: entries, rest, by rw [List.length_cons, length], ?_,
      List.forall_mem_cons.mpr ⟨⟨keySmall, valueSmall⟩, small⟩, rfl⟩
    rw [keyPlace, valuePlace, place, propertyFields_cons]

theorem readId_eq_ok {flags : Nat} {id : Option String} (run : readId flags cursor = .ok (id, next)) :
    (id.isSome ↔ flags % 2 = 1) ∧ (∀ given, id = some given → (Utf8.encode given).length < wordLimit) ∧
      cursor.rest = idField id ++ next.rest := by
  unfold readId at run
  split at run
  · rename_i flagged
    obtain ⟨⟨raw, after⟩, rawRun, run⟩ := Outcome.bind_eq_ok_iff.mp run
    obtain ⟨given, text, run⟩ := Outcome.bind_eq_ok_iff.mp run
    cases run
    obtain ⟨small, place⟩ := readField_eq_ok rawRun
    rw [← textOf_eq_ok text] at small place
    refine ⟨iff_of_true rfl flagged, fun _ same => ?_, place⟩
    cases same
    exact small
  · rename_i unflagged
    cases run
    exact ⟨iff_of_false Bool.false_ne_true unflagged, fun _ absent => (nomatch absent), rfl⟩

theorem readHeader_eq_ok {number flags received : Nat}
    (run : readHeader cursor = .ok (number, flags, received, next)) :
    received < wordLimit ∧ number < 256 ∧ flags < 256 ∧
      cursor.rest = number.toUInt8 :: flags.toUInt8 :: (word received ++ next.rest) := by
  unfold readHeader at run
  split at run
  · rename_i version flags a b c d rest same
    cases run
    refine ⟨wordOf_lt a b c d, version.toNat_lt, flags.toNat_lt, ?_⟩
    have byte (x : UInt8) : x.toNat.toUInt8 = x := UInt8.ofNat_toNat
    rw [same, word_wordOf, byte, byte]
    rfl
  · cases run

/-- The parts of a message as they stand in bytes, one after another, with whatever follows them. -/
structure Laid (data : Bytes) (m : Message) : Prop where
  parts : ∃ (flags : Nat) (entries : List (String × String)) (rest : Bytes), flags < 256 ∧
    (m.id.isSome ↔ flags % 2 = 1) ∧ entries.length < wordLimit ∧
    (∀ e ∈ entries, (Utf8.encode e.1).length < wordLimit ∧ (Utf8.encode e.2).length < wordLimit) ∧
    m.properties = .ofList entries ∧
    data = version.toUInt8 :: flags.toUInt8 :: (word m.received ++ (idField m.id ++ (field m.content ++
      (word entries.length ++ (propertyFields entries ++ rest)))))
  received : m.received < wordLimit
  id : ∀ given, m.id = some given → (Utf8.encode given).length < wordLimit
  content : m.content.length < wordLimit
  origin : m.origin = none

theorem laid_of_parse {m : Message} (run : parse data = .ok m) : Laid data m := by
  obtain ⟨⟨number, flags, received, afterHeader⟩, headerRun, run⟩ := Outcome.bind_eq_ok_iff.mp run
  obtain ⟨small, _, flagged, start⟩ := readHeader_eq_ok headerRun
  simp only [] at run
  split at run
  · cases run
  rename_i known
  rw [not_not] at known
  subst known
  obtain ⟨⟨id, afterId⟩, idRun, run⟩ := Outcome.bind_eq_ok_iff.mp run
  obtain ⟨⟨content, afterContent⟩, contentRun, run⟩ := Outcome.bind_eq_ok_iff.mp run
  obtain ⟨⟨count, afterCount⟩, countRun, run⟩ := Outcome.bind_eq_ok_iff.mp run
  obtain ⟨properties, propertiesRun, run⟩ := Outcome.bind_eq_ok_iff.mp run
  cases run
  obtain ⟨given, idSmall, idPlace⟩ := readId_eq_ok idRun
  obtain ⟨contentSmall, contentPlace⟩ := readField_eq_ok contentRun
  obtain ⟨countSmall, countPlace⟩ := readWord_eq_ok countRun
  obtain ⟨entries, rest, rfl, place, entriesSmall, rfl⟩ := readProperties_eq_ok propertiesRun
  refine ⟨⟨flags, entries, rest, flagged, given, countSmall, entriesSmall, rfl, ?_⟩, small, idSmall,
    contentSmall, rfl⟩
  simp only [] at idPlace contentPlace countPlace place
  rw [← place, ← countPlace, ← contentPlace, ← idPlace]
  exact start

theorem Laid.fits {m : Message} (laid : Laid data m) : Fits m := by
  obtain ⟨flags, entries, rest, -, -, few, small, properties, -⟩ := laid.parts
  refine ⟨laid.received, laid.id, laid.content, ?_, fun e member => ?_⟩
  · rw [properties]
    have size := Table.size_putAll_le entries (.empty : Table String String)
    have nothing : (.empty : Table String String).size = 0 := rfl
    rw [nothing, Nat.zero_add] at size
    exact Nat.lt_of_le_of_lt size few
  · rw [properties] at member
    rcases Table.mem_of_mem_entries_putAll member with before | given
    · exact absurd before List.not_mem_nil
    · exact small e given

theorem read_eq_ok_iff {m : Message} : read data = .ok m ↔ parse data = .ok m := by
  rw [read]
  cases parse data <;> simp [Except.mapError]

theorem write_eq_ok {m : Message} (written : write m = .ok data) : Fits m ∧ data = form m := by
  by_cases fits : Fits m
  · rw [write_eq fits] at written
    cases written
    exact ⟨fits, rfl⟩
  · rw [write_of_not_fits fits] at written
    cases written

/-- A message can be written exactly if it is made of whole characters and all its numbers are below the limit of a
word. Writing fails on the first text with a half in it, as that cannot be encoded, or on the first number above the
limit, whichever comes first; on a number if all characters are whole. What is written is read back as the message:
with its identifier or without one, its content, its count of receipts and its properties in their order. And
whatever bytes are read as a message, the message can be written again, and is read back as it is. -/
theorem messages_survive_writing :
    (∀ m : Message (List Text.Point), ((∃ data, write m = .ok data) ↔ ∃ plain, Spells plain m ∧ Fits plain) ∧
      (∀ fault, write m = .error fault ↔ ∃ before number after, numbers m = before ++ number :: after ∧
        (∀ earlier ∈ before, ∃ n < wordLimit, earlier = .ok n) ∧
        (number = .error fault ∨ ∃ n, wordLimit ≤ n ∧ number = .ok n ∧ fault = wordFault)) ∧
      ∀ data, write m = .ok data → ∃ plain, Spells plain m ∧ read data = .ok { plain with origin := none }) ∧
    (∀ m : Message, ((∃ data, write m = .ok data) ↔ Fits m) ∧ (¬ Fits m → write m = .error wordFault) ∧
      ∀ data, write m = .ok data → read data = .ok { m with origin := none }) ∧
    ∀ data m, read data = .ok m → ∃ again, write m = .ok again ∧ read again = .ok m := by
  refine ⟨fun m => ⟨⟨?_, ?_⟩, fun fault => ?_, fun data written => ?_⟩, fun m => ⟨⟨?_, ?_⟩, write_of_not_fits, ?_⟩, ?_⟩
  · rintro ⟨data, written⟩
    obtain ⟨plain, spells⟩ := exists_spells written
    exact ⟨plain, spells, (write_eq_ok (spells.write_eq ▸ written)).1⟩
  · rintro ⟨plain, spells, fits⟩
    exact ⟨form plain, spells.write_eq.trans (write_eq fits)⟩
  · simp only [write_eq_error_iff, writeNumber_eq_error_iff]
  · obtain ⟨plain, spells⟩ := exists_spells written
    obtain ⟨fits, rfl⟩ := write_eq_ok (spells.write_eq ▸ written)
    exact ⟨plain, spells, read_form fits⟩
  · exact fun ⟨data, written⟩ => (write_eq_ok written).1
  · exact fun fits => ⟨form m, write_eq fits⟩
  · intro data written
    obtain ⟨fits, rfl⟩ := write_eq_ok written
    exact read_form fits
  · intro data m accepted
    have laid := laid_of_parse (read_eq_ok_iff.mp accepted)
    have returns := read_form laid.fits
    rw [← laid.origin] at returns
    exact ⟨form m, write_eq laid.fits, returns⟩

/-- A message of which nearly everything is empty but present. -/
def blank : Message := { id := some "", properties := .ofList [("", "")] }

/-- A message whose identifier is the first half of a character. -/
def halved : Message (List Text.Point) := { id := some [.half 0xd800] }

theorem messages_survive_writing_blank :
    (∃ data, write blank = .ok data ∧ read data = .ok blank ∧ ∃ again, write blank = .ok again ∧
      read again = .ok blank) ∧ write { blank with received := wordLimit } = .error wordFault ∧
    write halved = .error (Text.halfFault [.half 0xd800]) := by
  obtain ⟨halves, whole, reading⟩ := messages_survive_writing
  obtain ⟨data, written⟩ := (whole blank).1.mpr (by decide)
  have returns := (whole blank).2.2 data written
  have large : ¬ Fits { blank with received := wordLimit } := fun fits => Nat.lt_irrefl _ fits.received
  have first : ∀ earlier ∈ [(.ok 0 : Attempt Nat)], ∃ n < wordLimit, earlier = .ok n :=
    List.forall_mem_singleton.mpr ⟨0, by decide, rfl⟩
  exact ⟨⟨data, written, returns, reading data blank returns⟩, (whole _).2.1 large,
    ((halves halved).2.1 _).mpr ⟨[.ok 0], _, [.ok 0, .ok 0], rfl, first, .inl rfl⟩⟩

/-- All numbers of a message can be below the limit, and still it is neither written nor fails on a number. -/
theorem halves_not_written :
    (∀ n, .ok n ∈ numbers halved → n < wordLimit) ∧
      ¬ ((∃ data, write halved = .ok data) ∨ write halved = .error wordFault) := by
  have written : write halved = .error (Text.halfFault [.half 0xd800]) := rfl
  constructor
  · intro n member
    change Except.ok n ∈ [.ok 0, .error _, .ok 0, .ok 0] at member
    simp only [List.mem_cons, Except.ok.injEq, reduceCtorEq, List.not_mem_nil, or_false, false_or, or_self] at member
    rw [member]
    decide
  · rw [written]
    rintro (⟨data, same⟩ | same)
    · cases same
    · simp only [Text.halfFault, wordFault, Except.error.injEq, Fault.raised.injEq, reduceCtorEq, false_and] at same

end Depot.Envelope
