import Depot.Proofs.Message.Envelope.Reading

namespace Depot.Envelope

variable {total n : Nat} {front whole left right : Bytes}

/-- The end of the bytes is missing. -/
def CutShort (front whole : Bytes) : Prop := ∃ lost, lost ≠ [] ∧ front ++ lost = whole

theorem cutShort_take {k : Nat} (inside : k < whole.length) : CutShort (whole.take k) whole := by
  refine ⟨whole.drop k, fun nothing => ?_, List.take_append_drop k whole⟩
  have past := List.drop_eq_nil_iff.mp nothing
  omega

theorem CutShort.length_lt (cut : CutShort front whole) : front.length < whole.length := by
  obtain ⟨lost, some_lost, rfl⟩ := cut
  have positive := List.length_pos_of_ne_nil some_lost
  rw [List.length_append]
  omega

/-- Of two parts the first is cut, or it is whole and the second is cut. -/
theorem CutShort.append (cut : CutShort front (left ++ right)) :
    CutShort front left ∨ ∃ more, front = left ++ more ∧ CutShort more right := by
  obtain ⟨lost, some_lost, same⟩ := cut
  rcases List.append_eq_append_iff.mp same with ⟨missing, first, all_lost⟩ | ⟨more, start, second⟩
  · by_cases none_missing : missing = []
    · subst none_missing
      rw [List.append_nil] at first
      exact Or.inr ⟨[], by rw [first, List.append_nil], lost, some_lost, all_lost⟩
    · exact Or.inl ⟨missing, none_missing, first.symm⟩
  · exact Or.inr ⟨more, start, lost, some_lost, second.symm⟩

/-- The flaws of bytes that end too early. -/
def Flaw.Truncation : Flaw → Prop
  | .short _ _ _ | .overrun _ => True
  | .version _ | .text _ => False

def EndsEarly {α : Type} (result : Except Flaw α) : Prop := ∃ flaw, result = .error flaw ∧ flaw.Truncation

/-- Nothing is read behind the end. -/
theorem EndsEarly.bind {α β : Type} {result : Except Flaw α} (early : EndsEarly result)
    (next : α → Except Flaw β) : EndsEarly (result >>= next) := by
  obtain ⟨flaw, rfl, truncation⟩ := early
  exact ⟨flaw, rfl, truncation⟩

theorem readWord_of_short (short : front.length < 4) : EndsEarly (readWord ⟨total, front⟩) := by
  unfold readWord
  split
  · rename_i a b c d rest same
    have long : front.length = rest.length + 4 := congrArg List.length same
    omega
  · exact ⟨_, rfl, trivial⟩

theorem readHeader_of_short (short : front.length < 6) : EndsEarly (readHeader ⟨total, front⟩) := by
  unfold readHeader
  split
  · rename_i version flags a b c d rest same
    have long : front.length = rest.length + 6 := congrArg List.length same
    omega
  · exact ⟨_, rfl, trivial⟩

theorem readWord_of_cut (cut : CutShort front (word n)) : EndsEarly (readWord ⟨total, front⟩) :=
  readWord_of_short cut.length_lt

/-- A field whose length is whole has fewer bytes left than its length says. -/
theorem readField_of_cut {data : Bytes} (small : data.length < wordLimit) (cut : CutShort front (field data)) :
    EndsEarly (readField ⟨total, front⟩) := by
  unfold readField
  rcases cut.append with inLength | ⟨rest, rfl, inData⟩
  · exact (readWord_of_cut inLength).bind _
  · have fewer : (rest.take data.length).length < data.length := by
      rw [List.length_take]
      exact Nat.lt_of_le_of_lt (Nat.min_le_right _ _) inData.length_lt
    rw [readWord_word small]
    simp only [bind, Except.bind, if_pos fewer]
    exact ⟨_, rfl, trivial⟩

theorem readId_of_cut {id : Option String}
    (small : ∀ given, id = some given → (Utf8.encode given).length < wordLimit) (cut : CutShort front (idField id)) :
    EndsEarly (readId (if id.isSome then 1 else 0) ⟨total, front⟩) := by
  cases id with
  | none =>
    have inside : front.length < 0 := cut.length_lt
    omega
  | some given =>
    have field : EndsEarly (readField ⟨total, front⟩) := readField_of_cut (small given rfl) cut
    exact field.bind _

/-- The properties before the cut are read; the cut one has a key or a value that is cut. -/
theorem readProperties_of_cut {entries : List (String × String)}
    (small : ∀ e ∈ entries, (Utf8.encode e.1).length < wordLimit ∧ (Utf8.encode e.2).length < wordLimit)
    (read : Table String String) (cut : CutShort front (propertyFields entries)) :
    EndsEarly (readProperties entries.length read ⟨total, front⟩) := by
  induction entries generalizing read front with
  | nil =>
    have inside : front.length < 0 := cut.length_lt
    omega
  | cons e more ih =>
    obtain ⟨⟨keyFits, valueFits⟩, inTail⟩ := List.forall_mem_cons.mp small
    have parts := propertyFields_cons e more []
    rw [List.append_nil, List.append_nil] at parts
    rw [parts] at cut
    rw [List.length_cons, readProperties]
    rcases cut.append with inKey | ⟨afterKey, rfl, behindKey⟩
    · exact (readField_of_cut keyFits inKey).bind _
    rw [readField_field keyFits]
    rcases behindKey.append with inValue | ⟨afterValue, rfl, behindValue⟩
    · exact (readField_of_cut valueFits inValue).bind _
    simp only [readField_field valueFits, textOf_encode, bind, Except.bind]
    exact ih inTail _ behindValue

/-- Everything in front of the identifier. -/
def header (m : Message) : Bytes :=
  version.toUInt8 :: (if m.id.isSome then 1 else 0) :: word m.received

theorem form_eq (m : Message) :
    form m = header m ++ (idField m.id ++ (field m.content ++ (word m.properties.size ++
      propertyFields m.properties.entries))) := by
  simp only [form, header, List.append_assoc, List.cons_append, List.nil_append]

theorem readHeader_header {m : Message} (small : m.received < wordLimit) (rest : Bytes) :
    readHeader ⟨total, header m ++ rest⟩ =
      .ok (version, if m.id.isSome then 1 else 0, m.received, ⟨total, rest⟩) := by
  have flags : (if m.id.isSome then 1 else 0 : UInt8).toNat = if m.id.isSome then 1 else 0 := by
    cases m.id <;> rfl
  rw [header, List.cons_append, List.cons_append, readHeader_word _ small, flags]

theorem parse_of_cut {m : Message} (fits : Fits m) (cut : CutShort front (form m)) : EndsEarly (parse front) := by
  rw [form_eq] at cut
  unfold parse
  rcases cut.append with inHeader | ⟨afterHeader, rfl, behindHeader⟩
  · exact (readHeader_of_short inHeader.length_lt).bind _
  rw [readHeader_header fits.received]
  simp only [bind, Except.bind, ne_eq, not_true_eq_false, if_false]
  rcases behindHeader.append with inId | ⟨afterId, rfl, behindId⟩
  · exact (readId_of_cut fits.id inId).bind _
  rw [readId_idField fits.id]
  rcases behindId.append with inContent | ⟨afterContent, rfl, behindContent⟩
  · exact (readField_of_cut fits.content inContent).bind _
  simp only [readField_field fits.content]
  rcases behindContent.append with inCount | ⟨afterCount, rfl, behindCount⟩
  · exact (readWord_of_cut inCount).bind _
  simp only [readWord_word fits.count]
  exact (readProperties_of_cut fits.properties .empty behindCount).bind _

theorem fits_of_write {m : Message} {data : Bytes} (written : write m = .ok data) : Fits m ∧ data = form m := by
  by_cases fits : Fits m
  · rw [write_eq fits] at written
    cases written
    exact ⟨fits, rfl⟩
  · rw [write_of_not_fits fits] at written
    cases written

theorem fault_of_truncation {flaw : Flaw} (truncation : flaw.Truncation) :
    ∃ reason, flaw.fault = .raised .value ("truncated message data: " ++ reason) := by
  cases flaw with
  | short size offset total =>
    have start : "truncated message data: unpack_from requires a buffer of at least " =
        "truncated message data: " ++ "unpack_from requires a buffer of at least " := by rfl
    simp only [Flaw.fault, start, String.append_assoc]
    exact ⟨_, rfl⟩
  | overrun length =>
    have start : "truncated message data: field of " = "truncated message data: " ++ "field of " := by rfl
    simp only [Flaw.fault, start, String.append_assoc]
    exact ⟨_, rfl⟩
  | version number => cases truncation
  | text reason => cases truncation

theorem read_of_cut {m : Message} {data : Bytes} (written : write m = .ok data) (cut : CutShort front data) :
    ∃ reason, read front = .error (.raised .value ("truncated message data: " ++ reason)) := by
  obtain ⟨fits, rfl⟩ := fits_of_write written
  obtain ⟨flaw, parsed, truncation⟩ := parse_of_cut fits cut
  obtain ⟨reason, fault⟩ := fault_of_truncation truncation
  refine ⟨reason, ?_⟩
  rw [read, parsed, ← fault]
  rfl

/-- Of two messages neither is written as the beginning of the other, unless both are written alike. -/
theorem eq_of_write_prefix {m m' : Message} {data data' : Bytes} (written : write m = .ok data)
    (written' : write m' = .ok data') (start : data' <+: data) : data' = data := by
  obtain ⟨lost, same⟩ := start
  by_cases none_lost : lost = []
  · rw [none_lost, List.append_nil] at same
    exact same
  · obtain ⟨reason, refused⟩ := read_of_cut written ⟨lost, none_lost, same⟩
    obtain ⟨fits, rfl⟩ := fits_of_write written'
    rw [read_form fits] at refused
    cases refused

/-- The binary form of a message, cut short anywhere, is refused as a wrong value and never read as a message, this
one or another. So the binary form of a message is the beginning of no other's. -/
theorem cut_form_refused {m : Message} {data : Bytes} (written : write m = .ok data) :
    (∀ k < data.length, ∃ reason,
      read (data.take k) = .error (.raised .value ("truncated message data: " ++ reason))) ∧
      ∀ (m' : Message) data', write m' = .ok data' → data' <+: data → data' = data := by
  constructor
  · intro k inside
    exact read_of_cut written (cutShort_take inside)
  · intro m' data' written' start
    exact eq_of_write_prefix written written' start

/-- A message with something in each of its parts. -/
def stamped : Message :=
  { content := [1, 2, 3], id := some "m1", properties := .ofList [("kind", "report"), ("", "")], received := 2 }

/-- Cut within the first property, and compared with a message without properties. -/
theorem cut_form_refused_stamped :
    ∃ data, write stamped = .ok data ∧ 30 < data.length ∧
      (∃ reason, read (data.take 30) = .error (.raised .value ("truncated message data: " ++ reason))) ∧
      ∀ data', write { stamped with properties := .empty } = .ok data' → ¬ data' <+: data := by
  have written : write stamped = .ok (form stamped) := write_eq (by decide)
  have long : 30 < (form stamped).length := by decide
  obtain ⟨refused, apart⟩ := cut_form_refused written
  refine ⟨form stamped, written, long, refused 30 long, fun data' written' start => ?_⟩
  obtain ⟨-, rfl⟩ := fits_of_write written'
  have same := congrArg List.length (apart _ _ written' start)
  revert same
  decide

end Depot.Envelope
