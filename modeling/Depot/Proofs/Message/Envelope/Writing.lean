import Depot.Proofs.Message.Envelope
import Depot.Proofs.Outcome
import Depot.Proofs.Text.Points

namespace Depot.Envelope

section

variable {τ α β : Type} [Textual τ]

/-- How many bytes a text takes, unless it cannot be encoded. -/
def lengthOf (text : τ) : Attempt Nat := (Textual.encode text).map List.length

/-- What is written as words for a message, in order. -/
def numbers (m : Message τ) : List (Attempt Nat) :=
  [.ok m.received] ++ (m.id.toList.map lengthOf ++ ([.ok m.content.length] ++ ([.ok m.properties.size] ++
    m.properties.entries.flatMap fun e => [lengthOf e.1, lengthOf e.2])))

def writeNumber (number : Attempt Nat) : Attempt Bytes := do writeWord (← number)

omit [Textual τ] in
theorem writeNumber_eq_ok_iff {number : Attempt Nat} :
    (∃ data, writeNumber number = .ok data) ↔ ∃ n < wordLimit, number = .ok n := by
  constructor
  · rintro ⟨data, written⟩
    obtain ⟨n, rfl, word⟩ := Outcome.bind_eq_ok_iff.mp written
    unfold writeWord at word
    split at word
    · exact ⟨n, ‹_›, rfl⟩
    · cases word
  · rintro ⟨n, small, rfl⟩
    exact ⟨word n, writeWord_eq small⟩

omit [Textual τ] in
theorem writeNumber_eq_error_iff {number : Attempt Nat} {fault : Fault} :
    writeNumber number = .error fault ↔
      number = .error fault ∨ ∃ n, wordLimit ≤ n ∧ number = .ok n ∧ fault = wordFault := by
  cases number with
  | error found => simp [writeNumber, bind, Except.bind]
  | ok n =>
    change writeWord n = _ ↔ _
    by_cases small : n < wordLimit
    · rw [writeWord_eq small]
      simpa using fun large => absurd small (Nat.not_lt.mpr large)
    · simp [writeWord, small, Nat.not_lt.mp small, eq_comm]

/-- A step fails just as the writing of some numbers does. -/
def Stops (step : Attempt α) (ns : List (Attempt Nat)) : Prop :=
  ∀ fault, step = .error fault ↔ ns.mapM writeNumber = .error fault

namespace Stops

omit [Textual τ] in
theorem error_iff {found fault : Fault} :
    (.error found : Attempt α) = .error fault ↔ (.error found : Attempt β) = .error fault := by
  simp only [Except.error.injEq]

theorem pure (a : α) : Stops (.ok a) [] := fun _ => iff_of_false nofun nofun

theorem bind {step : Attempt α} {next : α → Attempt β} {ns ms : List (Attempt Nat)} (first : Stops step ns)
    (second : ∀ a, Stops (next a) ms) : Stops (step >>= next) (ns ++ ms) := by
  intro fault
  rw [List.mapM_append]
  cases step with
  | error found =>
    rw [(first found).mp rfl]
    exact error_iff
  | ok a =>
    cases written : ns.mapM writeNumber with
    | error found => exact nomatch (first found).mpr written
    | ok datas =>
      refine (second a fault).trans ?_
      cases ms.mapM writeNumber with
      | error found => exact error_iff
      | ok more => exact iff_of_false nofun nofun

theorem map {step : Attempt α} {ns : List (Attempt Nat)} (stops : Stops step ns) (f : α → β) :
    Stops (do return f (← step)) ns := by
  have once := stops.bind fun a => pure (f a)
  rwa [List.append_nil] at once

theorem writeNumber (number : Attempt Nat) : Stops (Envelope.writeNumber number) [number] := by
  intro fault
  rw [List.mapM_cons]
  cases Envelope.writeNumber number with
  | error found => exact error_iff
  | ok data => exact iff_of_false nofun nofun

theorem writeField (data : Bytes) : Stops (Envelope.writeField data) [.ok data.length] :=
  (writeNumber (.ok data.length)).map (· ++ data)

theorem writeText (text : τ) : Stops (Envelope.writeText text) [lengthOf text] := by
  unfold Envelope.writeText lengthOf
  cases Textual.encode text with
  | error fault => exact writeNumber (.error fault)
  | ok data => exact writeField data

theorem writeId (id : Option τ) : Stops (Envelope.writeId id) (id.toList.map lengthOf) := by
  cases id with
  | none => exact pure []
  | some id => exact writeText id

theorem writeProperties (entries : List (τ × τ)) :
    Stops (Envelope.writeProperties entries) (entries.flatMap fun e => [lengthOf e.1, lengthOf e.2]) := by
  induction entries with
  | nil => exact pure []
  | cons e rest ih => exact (writeText e.1).bind fun key => (writeText e.2).bind fun value => ih.map (key ++ value ++ ·)

theorem write (m : Message τ) : Stops (Envelope.write m) (numbers m) :=
  (writeNumber (.ok m.received)).bind fun _ => (writeId m.id).bind fun _ => (writeField m.content).bind fun _ =>
    (writeNumber (.ok m.properties.size)).bind fun _ => (writeProperties m.properties.entries).map _

end Stops

/-- A message can be written exactly if every number that is written for it is there and below the limit. -/
theorem write_eq_ok_iff {m : Message τ} :
    (∃ data, write m = .ok data) ↔ ∀ number ∈ numbers m, ∃ n < wordLimit, number = .ok n := by
  have stops := Stops.write m
  simp only [← writeNumber_eq_ok_iff]
  constructor
  · rintro ⟨data, written⟩
    cases all : (numbers m).mapM writeNumber with
    | error fault => exact nomatch written.symm.trans ((stops fault).mpr all)
    | ok words =>
      intro number member
      obtain ⟨data, -, run⟩ := Outcome.exists_of_mapM_eq_ok all member
      exact ⟨data, run⟩
  · intro each
    obtain ⟨words, all⟩ := Outcome.exists_mapM_eq_ok each
    cases written : write m with
    | error fault => exact nomatch all.symm.trans ((stops fault).mp written)
    | ok data => exact ⟨data, rfl⟩

/-- Writing fails on the first number that is not there or too large. -/
theorem write_eq_error_iff {m : Message τ} {fault : Fault} :
    write m = .error fault ↔ ∃ before number after, numbers m = before ++ number :: after ∧
      (∀ number ∈ before, ∃ n < wordLimit, number = .ok n) ∧ writeNumber number = .error fault := by
  rw [Stops.write m fault]
  simp only [← writeNumber_eq_ok_iff]
  constructor
  · exact Outcome.exists_of_mapM_eq_error
  · rintro ⟨before, number, after, same, good, bad⟩
    rw [same]
    exact Outcome.mapM_eq_error good bad

end

theorem lengthOf_string (s : String) : lengthOf s = .ok (Utf8.encode s).length := rfl

/-- The numbers of a message of whole characters are all there. -/
theorem exists_of_mem_numbers {m : Message} {number : Attempt Nat} (member : number ∈ numbers m) :
    ∃ n, number = .ok n := by
  simp only [numbers, lengthOf_string, List.mem_append, List.mem_map, List.mem_flatMap, List.mem_cons,
    List.not_mem_nil, or_false] at member
  rcases member with rfl | ⟨id, -, rfl⟩ | rfl | rfl | ⟨e, -, rfl | rfl⟩ <;> exact ⟨_, rfl⟩

theorem fits_iff {m : Message} : Fits m ↔ ∀ number ∈ numbers m, ∃ n < wordLimit, number = .ok n := by
  have below {n : Nat} : (∃ k < wordLimit, (.ok n : Attempt Nat) = .ok k) ↔ n < wordLimit := by
    constructor
    · rintro ⟨k, small, same⟩
      cases same
      exact small
    · exact fun small => ⟨n, small, rfl⟩
  simp only [numbers, List.forall_mem_append, List.forall_mem_singleton, List.forall_mem_map, lengthOf_string,
    List.forall_mem_flatMap, List.forall_mem_cons, below]
  constructor
  · rintro ⟨received, id, content, count, properties⟩
    refine ⟨received, fun given member => id given (Option.mem_toList.mp member), content, count, fun e member => ?_⟩
    exact properties e member
  · rintro ⟨received, id, content, count, properties⟩
    refine ⟨received, fun given same => id given (Option.mem_toList.mpr same), content, count, fun e member => ?_⟩
    exact properties e member

/-- Parts are written in order, and the first one that does not fit ends the writing. -/
theorem write_of_not_fits {m : Message} (large : ¬ Fits m) : write m = .error wordFault := by
  cases written : write m with
  | ok data => exact absurd (fits_iff.mpr (write_eq_ok_iff.mp ⟨data, written⟩)) large
  | error fault =>
    obtain ⟨before, number, after, same, -, bad⟩ := write_eq_error_iff.mp written
    obtain ⟨n, rfl⟩ := exists_of_mem_numbers (same ▸ List.mem_append_right before List.mem_cons_self)
    change writeWord n = _ at bad
    unfold writeWord at bad
    split at bad
    · cases bad
    · exact bad.symm

/-- A message of whole characters spells one whose texts are its own, point by point. -/
structure Spells (plain : Message) (m : Message (List Text.Point)) : Prop where
  content : m.content = plain.content
  id : m.id = plain.id.map Text.points
  properties : m.properties.entries = plain.properties.entries.map fun e => (Text.points e.1, Text.points e.2)
  received : m.received = plain.received
  origin : m.origin = plain.origin

theorem writeText_points (s : String) : writeText (Text.points s) = writeText s := by
  rw [writeText, Text.encode_points]
  rfl

theorem writeId_points (id : Option String) : writeId (id.map Text.points) = writeId id := by
  cases id with
  | none => rfl
  | some given => exact writeText_points given

theorem writeProperties_points (entries : List (String × String)) :
    writeProperties (entries.map fun e => (Text.points e.1, Text.points e.2)) = writeProperties entries := by
  induction entries with
  | nil => rfl
  | cons e rest ih => simp only [List.map_cons, writeProperties, writeText_points, ih]

/-- It is written like the message that spells it. -/
theorem Spells.write_eq {plain : Message} {m : Message (List Text.Point)} (spells : Spells plain m) :
    write m = write plain := by
  have size : m.properties.size = plain.properties.size := by
    rw [Table.size, spells.properties, List.length_map, Table.size]
  unfold write
  rw [spells.received, spells.id, writeId_points, spells.content, size, spells.properties, writeProperties_points,
    Option.isSome_map]

theorem exists_of_writeText {text : List Text.Point} {data : Bytes} (written : writeText text = .ok data) :
    ∃ s, Text.points s = text := by
  obtain ⟨encoded, run, -⟩ := Outcome.bind_eq_ok_iff.mp written
  obtain ⟨s, same, -⟩ := Text.exists_of_encode run
  exact ⟨s, same⟩

theorem exists_of_writeProperties {entries : List (List Text.Point × List Text.Point)} {data : Bytes}
    (written : writeProperties entries = .ok data) :
    ∃ plain : List (String × String), entries = plain.map fun e => (Text.points e.1, Text.points e.2) := by
  induction entries generalizing data with
  | nil => exact ⟨[], rfl⟩
  | cons e rest ih =>
    obtain ⟨key, keyRun, later⟩ := Outcome.bind_eq_ok_iff.mp written
    obtain ⟨value, valueRun, later⟩ := Outcome.bind_eq_ok_iff.mp later
    obtain ⟨others, run, -⟩ := Outcome.bind_eq_ok_iff.mp later
    obtain ⟨k, keySame⟩ := exists_of_writeText keyRun
    obtain ⟨v, valueSame⟩ := exists_of_writeText valueRun
    obtain ⟨plain, same⟩ := ih run
    exact ⟨(k, v) :: plain, by rw [List.map_cons, keySame, valueSame, same]⟩

/-- What has been written is spelled by a message of whole characters. -/
theorem exists_spells {m : Message (List Text.Point)} {data : Bytes} (written : write m = .ok data) :
    ∃ plain, Spells plain m := by
  obtain ⟨_, -, written⟩ := Outcome.bind_eq_ok_iff.mp written
  obtain ⟨_, idRun, written⟩ := Outcome.bind_eq_ok_iff.mp written
  obtain ⟨_, -, written⟩ := Outcome.bind_eq_ok_iff.mp written
  obtain ⟨_, -, written⟩ := Outcome.bind_eq_ok_iff.mp written
  obtain ⟨_, entriesRun, -⟩ := Outcome.bind_eq_ok_iff.mp written
  obtain ⟨entries, same⟩ := exists_of_writeProperties entriesRun
  have distinct : (entries.map Prod.fst).Nodup := by
    refine List.Nodup.of_map Text.points ?_
    have keys := m.properties.distinct
    rw [same, List.map_map] at keys
    rwa [List.map_map]
  have id : ∃ id : Option String, m.id = id.map Text.points := by
    cases given : m.id with
    | none => exact ⟨none, rfl⟩
    | some text =>
      rw [given] at idRun
      obtain ⟨s, spelled⟩ := exists_of_writeText idRun
      exact ⟨some s, congrArg some spelled.symm⟩
  obtain ⟨id, given⟩ := id
  exact ⟨⟨m.content, id, ⟨entries, distinct⟩, m.received, m.origin⟩, ⟨rfl, given, same, rfl, rfl⟩⟩

end Depot.Envelope
