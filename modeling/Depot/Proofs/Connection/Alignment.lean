import Depot.Proofs.Connection.Pieces

namespace Depot.Connection

/-- The segments of a list, each cut off at a semicolon that stands alone, and all of them closed but the last. -/
inductive Parted : Nat → List Char → List Segment → Prop
  | last {position : Nat} {body : List Char} (clean : .single ';' ∉ scan body) :
      Parted position body [⟨body, position⟩]
  | cut {position : Nat} {first more : List Char} {others : List Segment} (clean : .single ';' ∉ scan first)
      (closed : ¬ EndsOpen first) (parted : Parted (position + first.length + 1) more others) :
      Parted position (first ++ ';' :: more) (⟨first, position⟩ :: others)

theorem not_mem_scan_of_scan {text rest : List Char} {t : Token} (scanned : scan text = t :: scan rest)
    (other : t ≠ .single ';') (clean : .single ';' ∉ scan rest) : .single ';' ∉ scan text := by
  rw [scanned, List.mem_cons, not_or]
  exact ⟨other.symm, clean⟩

theorem closed_of_scan {text rest : List Char} {t : Token} (scanned : scan text = t :: scan rest)
    (ended : rest = [] → t ≠ .single '\\') (closed : ¬ EndsOpen rest) : ¬ EndsOpen text := by
  intro opened
  rw [EndsOpen, scanned, List.getLast?_cons, Option.some.injEq] at opened
  cases last : (scan rest).getLast? with
  | none =>
    rw [last, Option.getD_none] at opened
    exact ended (of_scan_nil (List.getLast?_eq_none_iff.mp last)) opened
  | some t' =>
    rw [last, Option.getD_some] at opened
    exact closed (last.trans (congrArg some opened))

/-- A token that is no semicolon goes into the first segment, which it must not leave open. -/
theorem Parted.extend (front : List Char) {position : Nat} {rest : List Char} {t : Token} {others : List Segment}
    (parted : Parted (position + front.length) rest others) (other : t ≠ .single ';')
    (scanned : ∀ first more, rest = first ++ more → scan (front ++ first) = t :: scan first)
    (taken : ∀ more, rest = ';' :: more → t ≠ .single '\\') :
    Parted position (front ++ rest) (extendFirst front position others) := by
  cases parted with
  | last clean =>
    exact .last (not_mem_scan_of_scan (scanned rest [] (List.append_nil _).symm) other clean)
  | @cut _ first more others clean closed parted =>
    have free : first = [] → t ≠ .single '\\' := fun empty => taken more (by rw [empty, List.nil_append])
    have whole := scanned first (';' :: more) rfl
    rw [← List.append_assoc]
    refine .cut (not_mem_scan_of_scan whole other clean) (closed_of_scan whole free closed) ?_
    rw [List.length_append, ← Nat.add_assoc]
    exact parted

theorem parted_segmentsFrom (position : Nat) (body : List Char) :
    Parted position body (segmentsFrom position body) := by
  fun_induction segmentsFrom position body with
  | case1 position => exact .last List.not_mem_nil
  | case2 position c rest quotable ih =>
    exact Parted.extend ['\\', c] ih Token.noConfusion
      (fun first _ _ => scan_guarded (isQuotable_iff.mp quotable) first) fun _ _ => Token.noConfusion
  | case3 position c rest bare ih =>
    refine Parted.extend ['\\'] ih (by decide) (fun first more whole => scan_single ?_) ?_
    · -- The backslash takes nothing from the whole list, and so nothing from the front of it.
      rintro ⟨-, d, others, rfl, quotable⟩
      obtain ⟨rfl, -⟩ := List.cons.inj whole
      exact bare (isQuotable_iff.mpr quotable)
    · rintro more whole
      obtain ⟨rfl, -⟩ := List.cons.inj whole
      exact absurd (by decide) bare
  | case4 position rest ih =>
    have clean : .single ';' ∉ scan [] := List.not_mem_nil
    exact .cut clean (by decide) ih
  | case5 position c rest notQuoting notCut ih =>
    refine Parted.extend [c] ih (fun same => notCut (Token.single.inj same))
      (fun first more whole => scan_single ?_) ?_
    · rintro ⟨slash, d, others, rfl, -⟩
      exact notQuoting d (others ++ more) slash whole
    · rintro more whole same
      exact notQuoting ';' more (Token.single.inj same) whole

/-- A segment stands behind those before it and a semicolon for each of them. -/
theorem Parted.place {position : Nat} {body : List Char} {all before after : List Segment} {s : Segment}
    (parted : Parted position body all) (split : all = before ++ s :: after) :
    (∃ left right, body = left ++ (s.text ++ right) ∧ left.length = (before.map fun t => t.text.length + 1).sum ∧
      s.start = position + left.length) ∧
      .single ';' ∉ scan s.text ∧ (after ≠ [] → ¬ EndsOpen s.text) := by
  induction parted generalizing before with
  | @last position body clean =>
    obtain ⟨rfl, rfl, rfl⟩ : before = [] ∧ s = ⟨body, position⟩ ∧ after = [] := by
      cases before with
      | nil =>
        obtain ⟨rfl, rfl⟩ := List.cons.inj split
        exact ⟨rfl, rfl, rfl⟩
      | cons t before =>
        have nothing := (List.cons.inj split).2
        simp at nothing
    exact ⟨⟨[], [], (List.append_nil _).symm, rfl, rfl⟩, clean, fun some_after => absurd rfl some_after⟩
  | @cut position first more others clean closed parted ih =>
    cases before with
    | nil =>
      obtain ⟨rfl, rfl⟩ := List.cons.inj split
      exact ⟨⟨[], ';' :: more, rfl, rfl, rfl⟩, clean, fun _ => closed⟩
    | cons t before =>
      obtain ⟨rfl, later⟩ := List.cons.inj split
      obtain ⟨⟨left, right, rfl, length, start⟩, sealed⟩ := ih later
      refine ⟨⟨first ++ ';' :: left, right, by simp, ?_, ?_⟩, sealed⟩
      · simp only [List.length_append, List.length_cons, List.map_cons, List.sum_cons, ← length]
        omega
      · simp only [List.length_append, List.length_cons, start]
        omega

theorem Parted.join {position : Nat} {body : List Char} {all : List Segment} (parted : Parted position body all) :
    [';'].intercalate (all.map Segment.text) = body := by
  induction parted with
  | last => exact List.intercalate_singleton
  | @cut position first more others clean closed parted ih =>
    cases parted with
    | last =>
      rw [List.map_cons, List.map_cons, List.map_nil, List.intercalate_cons_cons, List.intercalate_singleton]
      simp
    | cut =>
      rw [List.map_cons, List.map_cons, List.intercalate_cons_cons, ← List.map_cons, ih]
      simp

/-- The scan of a segment comes to the end of its key, and goes on with the value by itself. -/
theorem scan_value {key : List Char} (word : Word key) (raw : List Char) :
    scan (key ++ '=' :: raw) = key.map .single ++ .single '=' :: scan raw := by
  have plain : ∀ c ∈ key, c ≠ '\\' := fun c member => by
    have bare := (isKeyChar_bare (isKeyChar_iff.mpr (word.2 c member))).1
    simp only [isBare, ne_eq, Bool.and_eq_true, decide_eq_true_eq] at bare
    exact bare.2
  clear word
  induction key with
  | nil => exact scan_single (not_guards (by decide) raw)
  | cons c key ih =>
    obtain ⟨atHead, inTail⟩ := List.forall_mem_cons.mp plain
    rw [List.cons_append, scan_single (not_guards atHead _), ih inTail]
    rfl

theorem splitKey_eq_some {text key raw : List Char} (split : splitKey text = (key, some raw)) :
    text = key ++ '=' :: raw := by
  rcases key_cases text with noEquals | ⟨name, value, rfl, noEquals⟩
  · rw [splitKey_bare noEquals] at split
    cases split
  · rw [splitKey_append noEquals] at split
    cases split
    rfl

theorem not_mem_pieces {raw : List Char} {c : Char} (clean : .single c ∉ scan raw) : .plain c ∉ pieces raw := by
  intro member
  obtain ⟨before, after, read⟩ := List.append_of_mem member
  obtain ⟨front, behind, tokens, -, -, later, scanned⟩ := exists_of_pieces_eq read
  obtain ⟨rest, -, first, -⟩ := scan_of_plain later
  rw [scanned, first] at clean
  exact clean (List.mem_append_right _ List.mem_cons_self)

theorem endsOpen_of_pieces {raw : List Char} (last : (pieces raw).getLast? = some (.plain '\\')) : EndsOpen raw := by
  obtain ⟨before, read⟩ := List.getLast?_eq_some_iff.mp last
  obtain ⟨front, behind, tokens, -, -, later, scanned⟩ := exists_of_pieces_eq read
  obtain ⟨rest, -, first, nothing⟩ := scan_of_plain later
  have empty : rest = [] := by
    rcases meets_cases rest with rfl | ⟨p, more, meets⟩ | ⟨more, rfl, cut⟩
    · rfl
    · cases meets.pieces_eq.symm.trans nothing
    · cases (pieces_unfinished cut).symm.trans nothing
  rw [EndsOpen, scanned, first, empty]
  exact List.getLast?_concat

/-- A list is cut into segments that join to it and stand where they are said to. In the value of a segment with a
good key the reader meets no semicolon but behind a backslash, up to where it stops; and at the end of such a segment
it takes no backslash for itself unless the segment is the last. -/
theorem same_escapes (body : List Char) :
    [';'].intercalate ((segments body).map Segment.text) = body ∧
      ∀ before s after, segments body = before ++ s :: after →
        s.start = (before.map fun t => t.text.length + 1).sum ∧ s.text <+: body.drop s.start ∧
          ∀ key raw, splitKey s.text = (key, some raw) → isKey (String.ofList key) →
            (∀ place, raw[place]? = some ';' → place < reach (pieces raw) →
              ∃ front back, pieces raw = front ++ .guarded ';' :: back ∧ place = reach front + 1) ∧
              .plain ';' ∉ pieces raw ∧ (after ≠ [] → (pieces raw).getLast? ≠ some (.plain '\\')) := by
  have parted : Parted 0 body (segments body) := parted_segmentsFrom 0 body
  refine ⟨parted.join, fun before s after split => ?_⟩
  obtain ⟨⟨left, right, whole, length, start⟩, clean, closed⟩ := parted.place split
  rw [Nat.zero_add] at start
  refine ⟨start.trans length, ?_, fun key raw equals valid => ?_⟩
  · rw [start, whole, List.drop_left]
    exact List.prefix_append _ _
  · have scanned := scan_value (isKey_ofList_iff.mp valid) raw
    rw [← splitKey_eq_some equals] at scanned
    have bare : .plain ';' ∉ pieces raw := not_mem_pieces fun member => clean (by
      rw [scanned]
      exact List.mem_append_right _ (List.mem_cons_of_mem _ member))
    refine ⟨fun place there reached => ?_, bare, fun some_after last => closed some_after ?_⟩
    · exact (semicolon_cases there reached).resolve_left bare
    · have opened := endsOpen_of_pieces last
      rw [EndsOpen] at opened
      rw [EndsOpen, scanned, List.getLast?_append, List.getLast?_cons, opened]
      rfl

/-- Backslashes one after another are paired from the left: in the first value the last one is protected, in the
second the semicolon is, and only the third value, at the end of the list, ends in one that stands for itself. -/
theorem same_escapes_paired :
    let body := "a=x\\\\;k=c:\\\\\\;d%4;z=\\".toList
    segments body =
        [⟨"a=x\\\\".toList, 0⟩, ⟨"k=c:\\\\\\;d%4".toList, 6⟩, ⟨"z=\\".toList, 18⟩] ∧
      (pieces "x\\\\".toList).getLast? ≠ some (.plain '\\') ∧
      (∃ front back, pieces "c:\\\\\\;d%4".toList = front ++ .guarded ';' :: back ∧ 5 = reach front + 1) ∧
      (pieces "\\".toList).getLast? = some (.plain '\\') := by
  intro body
  have cut : segments body =
      [⟨"a=x\\\\".toList, 0⟩, ⟨"k=c:\\\\\\;d%4".toList, 6⟩, ⟨"z=\\".toList, 18⟩] := by decide
  obtain ⟨-, placed⟩ := same_escapes body
  obtain ⟨-, -, first⟩ := placed [] _ _ cut
  obtain ⟨-, -, second⟩ := placed [_] _ _ cut
  obtain ⟨-, -, closed⟩ := first "a".toList "x\\\\".toList (by decide) (by decide)
  obtain ⟨guarded, -, -⟩ := second "k".toList "c:\\\\\\;d%4".toList (by decide) (by decide)
  exact ⟨cut, closed (List.cons_ne_nil _ _), guarded 5 (by decide) (by decide), by decide⟩

end Depot.Connection
