import Depot.Proofs.Message.Envelope.Reading

namespace Depot.Envelope

variable {data : Bytes} {cursor : Cursor} {total : Nat}

/-- The bytes of a message: version and flags, of which the lowest bit says that there is an identifier, the count
of receipts, the identifier, the content, and so many properties, with anything behind them. Of the properties
each key counts once, in the place of its first and with the value of its last occurrence. -/
structure Spelled (data : Bytes) (m : Message) : Prop where
  parts : ∃ (flags : UInt8) (entries : List (String × String)) (rest : Bytes),
    data = 1 :: flags :: (word m.received ++ (idField m.id ++ (field m.content ++ (word entries.length ++
      (propertyFields entries ++ rest))))) ∧
    (m.id.isSome ↔ flags.toNat % 2 = 1) ∧ entries.length < wordLimit ∧
    (∀ e ∈ entries, (Utf8.encode e.1).length < wordLimit ∧ (Utf8.encode e.2).length < wordLimit) ∧
    m.properties.keys = (entries.map Prod.fst).eraseDups ∧
    ∀ key, m.properties.get? key = (entries.reverse.find? fun e => e.1 = key).map Prod.snd
  received : m.received < wordLimit
  id : ∀ given, m.id = some given → (Utf8.encode given).length < wordLimit
  content : m.content.length < wordLimit
  origin : m.origin = none

theorem spelled_of_laid {m : Message} (laid : Laid data m) : Spelled data m := by
  obtain ⟨flags, entries, rest, byte, flagged, few, small, properties, start⟩ := laid.parts
  have flags_byte : flags.toUInt8.toNat = flags := by
    rw [Nat.toUInt8, UInt8.toNat_ofNat', Nat.mod_eq_of_lt byte]
  refine ⟨⟨flags.toUInt8, entries, rest, start, by rwa [flags_byte], few, small, ?_, fun key => ?_⟩,
    laid.received, laid.id, laid.content, laid.origin⟩
  · rw [properties, Table.keys_ofList]
  · rw [properties, Table.get?_ofList]

/-- Any flags that agree on the identifier are as good as those that are written. -/
theorem readId_of_flag {flags : Nat} {id : Option String} {rest : Bytes} (flagged : id.isSome ↔ flags % 2 = 1)
    (small : ∀ given, id = some given → (Utf8.encode given).length < wordLimit) :
    readId flags ⟨total, idField id ++ rest⟩ = .ok (id, ⟨total, rest⟩) := by
  cases id with
  | none =>
    have unflagged : ¬ flags % 2 = 1 := fun odd => Bool.false_ne_true (flagged.mpr odd)
    rw [readId, if_neg unflagged]
    rfl
  | some given =>
    rw [readId, if_pos (flagged.mp rfl), idField, Option.map_some, Option.getD_some,
      readField_field (small given rfl)]
    simp only [bind, Except.bind, textOf_encode]
    rfl

theorem parse_of_spelled {m : Message} (spelled : Spelled data m) : parse data = .ok m := by
  obtain ⟨flags, entries, rest, start, flagged, few, small, keys, values⟩ := spelled.parts
  have properties : Table.ofList entries = m.properties := by
    refine Table.ext ?_ fun key => ?_
    · rw [keys, Table.keys_ofList]
    · rw [values, Table.get?_ofList]
  have byte : (1 : UInt8) = version.toUInt8 := rfl
  have gathered (total : Nat) : readProperties entries.length .empty ⟨total, propertyFields entries ++ rest⟩ =
      .ok (Table.empty.putAll entries) := readProperties_propertyFields small .empty
  rw [byte] at start
  rw [parse]
  generalize data.length = total
  rw [start]
  simp only [readHeader_word _ spelled.received, bind, Except.bind, ne_eq, not_true_eq_false, if_false,
    readId_of_flag flagged spelled.id, readField_field spelled.content, readWord_word few, gathered]
  change (Except.ok _ : Except Flaw Message) = _
  rw [← Table.ofList, properties, ← spelled.origin]

theorem parse_eq_ok_iff {m : Message} : parse data = .ok m ↔ Spelled data m :=
  ⟨fun run => spelled_of_laid (laid_of_parse run), parse_of_spelled⟩

/-- The kinds of faults that count as a wrong value. -/
def IsWrongValue (kind : FaultKind) : Prop := kind = .value ∨ kind = .decoding

theorem fault_wrongValue (flaw : Flaw) : ∃ kind text, IsWrongValue kind ∧ flaw.fault = .raised kind text := by
  cases flaw with
  | short size offset total => exact ⟨.value, _, Or.inl rfl, rfl⟩
  | overrun length => exact ⟨.value, _, Or.inl rfl, rfl⟩
  | version number => exact ⟨.value, _, Or.inl rfl, rfl⟩
  | text reason => exact ⟨.decoding, _, Or.inr rfl, rfl⟩

theorem read_of_not_spelled (foreign : ∀ m, ¬ Spelled data m) :
    ∃ kind text, IsWrongValue kind ∧ read data = .error (.raised kind text) := by
  cases run : parse data with
  | ok m => exact absurd (parse_eq_ok_iff.mp run) (foreign m)
  | error flaw =>
    obtain ⟨kind, text, wrong, fault⟩ := fault_wrongValue flaw
    refine ⟨kind, text, wrong, ?_⟩
    rw [read, run, ← fault]
    rfl

/-- One turn: a key and a value. -/
def readProperty (cursor : Cursor) : Except Flaw ((String × String) × Cursor) := do
  let (key, cursor) ← readField cursor
  let (value, cursor) ← readField cursor
  let value ← textOf value
  let key ← textOf key
  return ((key, value), cursor)

/-- Reads properties and counts the turns, with the one that fails. -/
def countProperties : Nat → Table String String → Cursor → Nat × Except Flaw (Table String String)
  | 0, read, _ => (0, .ok read)
  | count + 1, read, cursor =>
    match readProperty cursor with
    | .error flaw => (1, .error flaw)
    | .ok (property, cursor) =>
      let (turns, result) := countProperties count (read.put property.1 property.2) cursor
      (turns + 1, result)

/-- Everything in front of the properties: the count of receipts, the identifier, the content, and how many
properties there are to be. -/
def readFront (data : Bytes) : Except Flaw ((Nat × Option String × Bytes × Nat) × Cursor) := do
  let (number, flags, received, cursor) ← readHeader ⟨data.length, data⟩
  if number ≠ version then throw (.version number)
  let (id, cursor) ← readId flags cursor
  let (content, cursor) ← readField cursor
  let (count, cursor) ← readWord cursor
  return ((received, id, content, count), cursor)

/-- Reads a message and counts the turns of the loop over its properties. -/
def countedRead (data : Bytes) : Nat × Attempt Message :=
  match readFront data with
  | .error flaw => (0, .error flaw.fault)
  | .ok ((received, id, content, count), cursor) =>
    let (turns, result) := countProperties count .empty cursor
    (turns, (result.map fun properties => { content, id, properties, received }).mapError Flaw.fault)

theorem readProperties_succ (count : Nat) (read : Table String String) (cursor : Cursor) :
    readProperties (count + 1) read cursor =
      readProperty cursor >>= fun found => readProperties count (read.put found.1.1 found.1.2) found.2 := by
  simp only [readProperties, readProperty, bind_assoc, pure_bind]

theorem countProperties_snd (count : Nat) (read : Table String String) (cursor : Cursor) :
    (countProperties count read cursor).2 = readProperties count read cursor := by
  induction count generalizing read cursor with
  | zero => rfl
  | succ count ih =>
    rw [readProperties_succ, countProperties]
    cases readProperty cursor with
    | error flaw => rfl
    | ok found => exact ih _ _

theorem countedRead_snd (data : Bytes) : (countedRead data).2 = read data := by
  have parts : parse data = readFront data >>= fun front =>
      (readProperties front.1.2.2.2 .empty front.2).map fun properties =>
        { content := front.1.2.2.1, id := front.1.2.1, properties, received := front.1.1 } := by
    simp only [parse, readFront, bind_assoc]
    refine congrArg _ (funext fun header => ?_)
    by_cases known : header.1 ≠ version
    · rw [if_pos known, if_pos known]
      rfl
    · rw [if_neg known, if_neg known]
      simp only [bind_assoc, pure_bind]
      rfl
  rw [read, parts, countedRead]
  cases readFront data with
  | error flaw => rfl
  | ok front =>
    change (Except.map _ (countProperties _ _ _).2).mapError Flaw.fault = _
    rw [countProperties_snd]
    rfl

theorem length_readField {field : Bytes} {next : Cursor} (run : readField cursor = .ok (field, next)) :
    next.rest.length + 4 ≤ cursor.rest.length := by
  obtain ⟨-, place⟩ := readField_eq_ok run
  rw [place, Envelope.field, List.length_append, List.length_append]
  have four : (word field.length).length = 4 := rfl
  omega

/-- A turn that succeeds has read two lengths at least. -/
theorem length_readProperty {found : (String × String) × Cursor} (run : readProperty cursor = .ok found) :
    found.2.rest.length + 8 ≤ cursor.rest.length := by
  obtain ⟨⟨key, afterKey⟩, keyRun, run⟩ := Outcome.bind_eq_ok_iff.mp run
  obtain ⟨⟨value, afterValue⟩, valueRun, run⟩ := Outcome.bind_eq_ok_iff.mp run
  obtain ⟨valueText, -, run⟩ := Outcome.bind_eq_ok_iff.mp run
  obtain ⟨keyText, -, run⟩ := Outcome.bind_eq_ok_iff.mp run
  cases run
  have first := length_readField keyRun
  have second := length_readField valueRun
  simp only [] at first second ⊢
  omega

theorem countProperties_fst_le (count : Nat) (read : Table String String) (cursor : Cursor) :
    (countProperties count read cursor).1 ≤ cursor.rest.length / 8 + 1 := by
  induction count generalizing read cursor with
  | zero => exact Nat.zero_le _
  | succ count ih =>
    rw [countProperties]
    cases run : readProperty cursor with
    | error flaw => exact Nat.le_add_left _ _
    | ok found =>
      have later := ih (read.put found.1.1 found.1.2) found.2
      have shorter := length_readProperty run
      change (countProperties count (read.put found.1.1 found.1.2) found.2).1 + 1 ≤ _
      omega

theorem length_readFront {front : (Nat × Option String × Bytes × Nat) × Cursor} (run : readFront data = .ok front) :
    front.2.rest.length ≤ data.length := by
  obtain ⟨⟨number, flags, received, afterHeader⟩, headerRun, run⟩ := Outcome.bind_eq_ok_iff.mp run
  simp only [] at run
  split at run
  · cases run
  obtain ⟨⟨id, afterId⟩, idRun, run⟩ := Outcome.bind_eq_ok_iff.mp run
  obtain ⟨⟨content, afterContent⟩, contentRun, run⟩ := Outcome.bind_eq_ok_iff.mp run
  obtain ⟨⟨count, afterCount⟩, countRun, run⟩ := Outcome.bind_eq_ok_iff.mp run
  cases run
  obtain ⟨-, -, -, header⟩ := readHeader_eq_ok headerRun
  obtain ⟨-, -, id⟩ := readId_eq_ok idRun
  obtain ⟨-, content⟩ := readField_eq_ok contentRun
  obtain ⟨-, count⟩ := readWord_eq_ok countRun
  have start := congrArg List.length header
  simp only [] at start id content count ⊢
  rw [id, content, count] at start
  simp only [List.length_cons, List.length_append] at start
  omega

theorem countedRead_fst_le (data : Bytes) : (countedRead data).1 ≤ data.length / 8 + 1 := by
  unfold countedRead
  cases run : readFront data with
  | error flaw => exact Nat.zero_le _
  | ok front =>
    have turns := countProperties_fst_le front.1.2.2.2 .empty front.2
    have within := Nat.div_le_div_right (c := 8) (length_readFront run)
    exact Nat.le_trans turns (Nat.succ_le_succ within)

/-- Bytes are read as a message exactly if the format spells it so, all other bytes are refused as a wrong value,
and either way no more turns through the properties are begun than one for every eight bytes and one more. -/
theorem read_accepts_spelled (data : Bytes) :
    (∀ m, read data = .ok m ↔ Spelled data m) ∧
      ((∀ m, ¬ Spelled data m) →
        ∃ kind text, IsWrongValue kind ∧ read data = .error (.raised kind text)) ∧
      (countedRead data).2 = read data ∧ (countedRead data).1 ≤ data.length / 8 + 1 :=
  ⟨fun _ => read_eq_ok_iff.trans parse_eq_ok_iff, read_of_not_spelled, countedRead_snd data,
    countedRead_fst_le data⟩

end Depot.Envelope
