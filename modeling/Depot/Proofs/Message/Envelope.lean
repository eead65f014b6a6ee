import Depot.Message.Envelope
import Depot.Proofs.Table

namespace Depot.Envelope

/-- Every number that is written for a message is below the limit of a word. -/
structure Fits (m : Message) : Prop where
  received : m.received < wordLimit
  id : ∀ id, m.id = some id → (Utf8.encode id).length < wordLimit
  content : m.content.length < wordLimit
  count : m.properties.size < wordLimit
  properties : ∀ e ∈ m.properties.entries,
    (Utf8.encode e.1).length < wordLimit ∧ (Utf8.encode e.2).length < wordLimit

instance (m : Message) : Decidable (Fits m) :=
  decidable_of_iff
    (m.received < wordLimit ∧ (∀ id ∈ m.id, (Utf8.encode id).length < wordLimit) ∧
      m.content.length < wordLimit ∧ m.properties.size < wordLimit ∧ ∀ e ∈ m.properties.entries,
        (Utf8.encode e.1).length < wordLimit ∧ (Utf8.encode e.2).length < wordLimit)
    ⟨fun ⟨received, id, content, count, properties⟩ => ⟨received, id, content, count, properties⟩,
      fun fits => ⟨fits.received, fits.id, fits.content, fits.count, fits.properties⟩⟩

theorem Fits.of_receive {m : Message} (fits : Fits m.receive) : Fits m where
  received := Nat.lt_of_succ_lt fits.received
  id := fits.id
  content := fits.content
  count := fits.count
  properties := fits.properties

variable {n total : Nat} {rest : Bytes}

theorem wordOf_word (small : n < wordLimit) :
    wordOf (n / 16777216).toUInt8 (n / 65536).toUInt8 (n / 256).toUInt8 n.toUInt8 = n := by
  have limit : wordLimit = 4294967296 := rfl
  simp only [wordOf, Nat.toUInt8, UInt8.toNat_ofNat']
  omega

theorem readWord_word (small : n < wordLimit) :
    readWord ⟨total, word n ++ rest⟩ = .ok (n, ⟨total, rest⟩) := by
  simp only [word, List.cons_append, List.nil_append, readWord, wordOf_word small]

theorem readHeader_word (flags : UInt8) (small : n < wordLimit) :
    readHeader ⟨total, version.toUInt8 :: flags :: (word n ++ rest)⟩ =
      .ok (version, flags.toNat, n, ⟨total, rest⟩) := by
  simp only [word, List.cons_append, List.nil_append, readHeader, wordOf_word small]
  rfl

theorem writeWord_eq (small : n < wordLimit) : writeWord n = .ok (word n) := if_pos small

/-- A field with its length before it. -/
def field (data : Bytes) : Bytes := word data.length ++ data

theorem writeField_eq {data : Bytes} (small : data.length < wordLimit) :
    writeField data = .ok (field data) := by
  rw [writeField, writeWord_eq small]
  rfl

theorem writeText_eq {s : String} (small : (Utf8.encode s).length < wordLimit) :
    writeText s = .ok (field (Utf8.encode s)) := writeField_eq small

theorem readField_field {data : Bytes} (small : data.length < wordLimit) :
    readField ⟨total, field data ++ rest⟩ = .ok (data, ⟨total, rest⟩) := by
  have whole : ¬ data.length < data.length := Nat.lt_irrefl _
  rw [field, List.append_assoc, readField, readWord_word small]
  simp only [bind, Except.bind, List.take_left, if_neg whole, List.drop_left]
  rfl

theorem textOf_encode (s : String) : textOf (Utf8.encode s) = .ok s := by
  rw [textOf, Utf8.decode, Utf8.decode?_encode]
  rfl

def idField (id : Option String) : Bytes := (id.map fun id => field (Utf8.encode id)).getD []

theorem writeId_eq {id : Option String}
    (small : ∀ given, id = some given → (Utf8.encode given).length < wordLimit) :
    writeId id = .ok (idField id) := by
  cases id with
  | none => rfl
  | some given => exact writeText_eq (small given rfl)

theorem readId_idField {id : Option String}
    (small : ∀ given, id = some given → (Utf8.encode given).length < wordLimit) :
    readId (if id.isSome then 1 else 0) ⟨total, idField id ++ rest⟩ = .ok (id, ⟨total, rest⟩) := by
  cases id with
  | none => rfl
  | some given =>
    simp only [Option.isSome_some, if_true, readId, idField, Option.map_some, Option.getD_some,
      readField_field (small given rfl), bind, Except.bind, textOf_encode]
    rfl

def propertyFields (entries : List (String × String)) : Bytes :=
  entries.flatMap fun e => field (Utf8.encode e.1) ++ field (Utf8.encode e.2)

theorem propertyFields_cons (e : String × String) (more : List (String × String)) (rest : Bytes) :
    propertyFields (e :: more) ++ rest =
      field (Utf8.encode e.1) ++ (field (Utf8.encode e.2) ++ (propertyFields more ++ rest)) := by
  simp only [propertyFields, List.flatMap_cons, List.append_assoc]

variable {entries : List (String × String)}

theorem writeProperties_eq
    (small : ∀ e ∈ entries, (Utf8.encode e.1).length < wordLimit ∧ (Utf8.encode e.2).length < wordLimit) :
    writeProperties entries = .ok (propertyFields entries) := by
  induction entries with
  | nil => rfl
  | cons e rest ih =>
    obtain ⟨⟨keyFits, valueFits⟩, inTail⟩ := List.forall_mem_cons.mp small
    simp only [writeProperties, writeText_eq keyFits, writeText_eq valueFits, ih inTail, bind, Except.bind]
    rfl

/-- Properties are read one after another into a table. -/
theorem readProperties_propertyFields
    (small : ∀ e ∈ entries, (Utf8.encode e.1).length < wordLimit ∧ (Utf8.encode e.2).length < wordLimit)
    (read : Table String String) :
    readProperties entries.length read ⟨total, propertyFields entries ++ rest⟩ =
      .ok (read.putAll entries) := by
  induction entries generalizing read with
  | nil => rfl
  | cons e more ih =>
    obtain ⟨⟨keyFits, valueFits⟩, inTail⟩ := List.forall_mem_cons.mp small
    rw [propertyFields_cons, List.length_cons, readProperties]
    simp only [readField_field keyFits, readField_field valueFits, textOf_encode, bind, Except.bind]
    exact ih inTail _

/-- The binary form of a message whose numbers fit. -/
def form (m : Message) : Bytes :=
  [version.toUInt8, if m.id.isSome then 1 else 0] ++ word m.received ++ idField m.id ++ field m.content ++
    word m.properties.size ++ propertyFields m.properties.entries

theorem write_eq {m : Message} (fits : Fits m) : write m = .ok (form m) := by
  simp only [write, writeWord_eq fits.received, writeId_eq fits.id, writeField_eq fits.content,
    writeWord_eq fits.count, writeProperties_eq fits.properties, bind, Except.bind]
  rfl

/-- A message is read back, the origin of its content apart, which is not written. -/
theorem read_form {m : Message} (fits : Fits m) : read (form m) = .ok { m with origin := none } := by
  have parts : form m = version.toUInt8 :: (if m.id.isSome then 1 else 0) :: (word m.received ++
      (idField m.id ++ (field m.content ++ (word m.properties.size ++
        (propertyFields m.properties.entries ++ []))))) := by
    simp only [form, List.append_assoc, List.cons_append, List.nil_append, List.append_nil]
  have flags : (if m.id.isSome then 1 else 0 : UInt8).toNat = if m.id.isSome then 1 else 0 := by
    cases m.id <;> rfl
  have table : Table.empty.putAll m.properties.entries = m.properties := Table.ofList_entries _
  have parsed : parse (form m) = .ok { m with origin := none } := by
    rw [parse, parts]
    simp only [readHeader_word _ fits.received, flags, bind, Except.bind, ne_eq, not_true_eq_false, if_false,
      readId_idField fits.id, readField_field fits.content, readWord_word fits.count]
    have size : m.properties.size = m.properties.entries.length := rfl
    rw [size, readProperties_propertyFields fits.properties, table]
    rfl
  rw [read, parsed]
  rfl

end Depot.Envelope
