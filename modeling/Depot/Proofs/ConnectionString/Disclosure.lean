import Depot.Proofs.Connection.Grammar
import Depot.Proofs.ConnectionString.Secrets

namespace Depot.Connection

open ConnectionString

/-- A text is refused for one of the segments behind its scheme: those before it are good, and it is not. -/
structure RefusedFor (text : String) (scheme : List Char) (before : List (List Char)) (segment : List Char)
    (after : List (List Char)) : Prop where
  nonempty : scheme ≠ []
  list : ∃ body, FirstSeparator text scheme body ∧ ¬ "native=".toList <+: body ∧
    filled body = before ++ segment :: after
  good : ∀ earlier ∈ before, ∃ pair, SegmentForm earlier pair
  bad : ∀ pair, ¬ SegmentForm segment pair

/-- The position that a failure reports, as its message writes it. -/
def reportedPosition (e : Failure) : String := ((e.context.get? "position").map Value.plain).getD ""

/-- Two failures with the same message and the same context, except for the position they report. -/
structure AlikeButPosition (e e' : Failure) : Prop where
  message : ∃ front back, e.message = front ++ reportedPosition e ++ back ∧
    e'.message = front ++ reportedPosition e' ++ back
  context : ∀ field, field ≠ "position" → e.context.get? field = e'.context.get? field

variable {segment : List Char} {e : Failure}

theorem SegmentFlaw.context_segment (flaw : SegmentFlaw segment e) :
    e.context.get? "segment" = some (.text (String.ofList segment)) := by
  cases flaw <;> rfl

theorem SegmentFlaw.message_eq (flaw : SegmentFlaw segment e) :
    ∃ front back, e.message = front ++ String.ofList segment ++ back := by
  cases flaw with
  | noKey => exact ⟨"Malformed connection string segment '", _, String.append_assoc⟩
  | badKey => exact ⟨"Malformed connection string segment '", _, String.append_assoc⟩
  | badValue position =>
    exact ⟨"Unfinished escape sequence at position " ++ toString position ++ " in segment '", "'", rfl⟩

/-- A failure is like itself if its message shows the position that its context reports. -/
theorem AlikeButPosition.of_shown {front back : String} (shown : e.message = front ++ reportedPosition e ++ back) :
    AlikeButPosition e e :=
  ⟨⟨front, back, shown, shown⟩, fun _ _ => rfl⟩

theorem SegmentFlaw.alike_self (flaw : SegmentFlaw segment e) : AlikeButPosition e e := by
  have unplaced (reason : String) : AlikeButPosition (.malformedSegment (String.ofList segment) reason)
      (.malformedSegment (String.ofList segment) reason) := by
    have shown (message : String) : message = message ++ "" ++ "" := by
      rw [String.append_empty, String.append_empty]
    exact .of_shown (shown _)
  cases flaw with
  | noKey => exact unplaced _
  | badKey => exact unplaced _
  | badValue position =>
    have shown : (Failure.unescapedDelimiter (String.ofList segment) position).message =
        "Unfinished escape sequence at position " ++ toString position ++
          (" in segment '" ++ String.ofList segment ++ "'") := by
      simp only [Failure.unescapedDelimiter, String.append_assoc]
    exact .of_shown shown

/-- The segment alone decides how a text is refused for it. -/
theorem RefusedFor.read {text : String} {scheme : List Char} {before after : List (List Char)}
    (refused : RefusedFor text scheme before segment after) :
    ∃ e, SegmentFlaw segment e ∧ readSegment segment = .error e ∧ Parts.read text = .error e := by
  obtain ⟨body, first, unmarked, filled_eq⟩ := refused.list
  rcases readSegment_cases segment with ⟨pair, form, -⟩ | ⟨e, flaw, failed⟩
  · exact absurd form (refused.bad pair)
  · refine ⟨e, flaw, failed, ?_⟩
    have good : ∀ earlier ∈ before, ∃ pair, readSegment earlier = .ok pair := fun earlier member =>
      (refused.good earlier member).imp fun pair => readSegment_of_form
    rw [read_filled refused.nonempty (splitScheme?_eq_some_iff.mpr first) unmarked, filled_eq,
      Outcome.mapM_eq_error good failed]
    rfl

/-- Two texts that are refused for the value of one parameter, with everything else equal, are told with the whole
segment, in message and context. Apart from the position, the failures are the same only if the values are: every
value is disclosed, and that of a secret parameter no less. -/
theorem refusal_tells_value {text text' : String} {scheme key raw raw' : List Char} {before after : List (List Char)}
    (first : RefusedFor text scheme before (key ++ '=' :: raw) after)
    (second : RefusedFor text' scheme before (key ++ '=' :: raw') after) :
    ∃ e e', Parts.read text = .error e ∧ Parts.read text' = .error e' ∧
      e.context.get? "segment" = some (.text (String.ofList (key ++ '=' :: raw))) ∧
      (∃ front back, e.message = front ++ String.ofList (key ++ '=' :: raw) ++ back) ∧
      (AlikeButPosition e e' ↔ raw = raw') := by
  obtain ⟨e, flaw, failed, read⟩ := first.read
  obtain ⟨e', flaw', failed', read'⟩ := second.read
  refine ⟨e, e', read, read', flaw.context_segment, flaw.message_eq, ?_⟩
  constructor
  · intro alike
    have told := alike.context "segment" (by decide)
    rw [flaw.context_segment, flaw'.context_segment, Option.some.injEq, Value.text.injEq, String.ofList_inj] at told
    exact List.tail_eq_of_cons_eq (List.append_cancel_left told)
  · rintro rfl
    obtain rfl : e = e' := Except.error.inj (failed.symm.trans failed')
    exact flaw.alike_self

/-- A text is refused for the first segment that cannot be read. -/
theorem refusedFor_of_failed {text : String} {scheme body : List Char} {before after : List (List Char)}
    (split : splitScheme? text.toList = some (scheme, body)) (nonempty : scheme ≠ [])
    (unmarked : ¬ "native=".toList <+: body) (cut : filled body = before ++ segment :: after)
    (good : ∀ earlier ∈ before, (readSegment earlier).isOk) (failed : readSegment segment = .error e) :
    RefusedFor text scheme before segment after where
  nonempty := nonempty
  list := ⟨body, splitScheme?_eq_some_iff.mp split, unmarked, cut⟩
  good earlier member := by
    cases read : readSegment earlier with
    | ok pair => exact ⟨pair, form_of_readSegment read⟩
    | error other => exact absurd (good earlier member) (by rw [read]; exact Bool.false_ne_true)
  bad pair form := by cases failed.symm.trans (readSegment_of_form form)

/-- The key is secret, since its first letter, the sign of the kelvin, is a small letter in lower case; it is no
valid key, and the values behind it are told. -/
theorem refusal_tells_value_kelvin :
    IsSecret "\u212Aey" ∧ ∃ e e', Parts.read "p://a=1;\u212Aey=one;b" = .error e ∧
      Parts.read "p://a=1;\u212Aey=two;b" = .error e' ∧
      e.context.get? "segment" = some (.text "\u212Aey=one") ∧ ¬ AlikeButPosition e e' := by
  have first : RefusedFor "p://a=1;\u212Aey=one;b" ['p'] ["a=1".toList] ("\u212Aey".toList ++ '=' :: "one".toList)
      ["b".toList] :=
    refusedFor_of_failed (by rfl) (by decide) (by decide) (by decide) (by decide) (by rfl)
  have second : RefusedFor "p://a=1;\u212Aey=two;b" ['p'] ["a=1".toList] ("\u212Aey".toList ++ '=' :: "two".toList)
      ["b".toList] :=
    refusedFor_of_failed (by rfl) (by decide) (by decide) (by decide) (by decide) (by rfl)
  obtain ⟨e, e', read, read', told, -, alike⟩ := refusal_tells_value first second
  exact ⟨by decide, e, e', read, read', told, fun same => absurd (alike.mp same) (by decide)⟩

/-- Two secrets with an unfinished escape behind them: everything but the secrets is equal, and both are told. -/
theorem secret_told_by_refusal :
    IsSecret "key" ∧ RefusedFor "p://key=ab%" ['p'] [] ("key".toList ++ '=' :: "ab%".toList) [] ∧
      RefusedFor "p://key=xy%" ['p'] [] ("key".toList ++ '=' :: "xy%".toList) [] ∧
      Parts.read "p://key=ab%" = .error (.unescapedDelimiter "key=ab%" 6) ∧
      Parts.read "p://key=xy%" = .error (.unescapedDelimiter "key=xy%" 6) ∧
      ¬ AlikeButPosition (.unescapedDelimiter "key=ab%" 6) (.unescapedDelimiter "key=xy%" 6) := by
  refine ⟨by decide, ?_, ?_, by rfl, by rfl, fun alike => ?_⟩
  · exact refusedFor_of_failed (by rfl) (by decide) (by decide) (by decide) (by decide) (by rfl)
  · exact refusedFor_of_failed (by rfl) (by decide) (by decide) (by decide) (by decide) (by rfl)
  · have told : some (Value.text "key=ab%") = some (Value.text "key=xy%") := alike.context "segment" (by decide)
    rw [Option.some.injEq, Value.text.injEq] at told
    exact absurd told (by decide)

end Depot.Connection
