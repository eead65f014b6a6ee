import Depot.Proofs.Connection.Pieces
import Depot.Proofs.Connection.Writers
import Depot.Proofs.ConnectionString.Disclosure

namespace Depot.Connection

/-- A text ends with a percent sign and two digits. -/
def EndsEscape (text : List Char) : Prop :=
  ∃ before a b high low, text = before ++ ['%', a, b] ∧ HexDigit a high ∧ HexDigit b low

/-- At a place of a text stands a percent sign that begins no escape, or one in a run of escapes, with no escape left
out at either end, whose bytes are no encoded text. -/
inductive Offends (raw : List Char) (place : Nat) : Prop
  | unfinished {front rest : List Char} (whole : raw = front ++ '%' :: rest) (there : front.length = place)
      (cut : ¬ BeginsEscape ('%' :: rest))
  | spoiled {front left right back : List Char} {before after : Bytes}
      (whole : raw = front ++ (left ++ ('%' :: right ++ back))) (there : front.length + left.length = place)
      (first : Escapes before left) (second : Escapes after ('%' :: right))
      (bad : Utf8.decode? (before ++ after) = none) (begun : ¬ EndsEscape front) (ended : ¬ BeginsEscape back)

/-- A stretch begins at the front of a value or behind a protected character. -/
def StretchBegins (front : List Char) : Prop :=
  front = [] ∨ ∃ before c, front = before ++ ['\\', c] ∧ c ∈ [';', '=', '\\']

/-- A stretch ends at the end of a value or in front of a protected character. -/
def StretchEnds (back : List Char) : Prop :=
  back = [] ∨ ∃ c rest, back = '\\' :: c :: rest ∧ c ∈ [';', '=', '\\']

/-- A failure names a segment of a text, with a good key, and a place in its value. -/
structure TellsPlace (text : String) (e : Failure) (key raw : List Char) (place : Nat) : Prop where
  member : ∃ scheme body, FirstSeparator text scheme body ∧ key ++ '=' :: raw ∈ filled body
  word : Word key
  segment : e.context.get? "segment" = some (.text (String.ofList (key ++ '=' :: raw)))
  position : e.context.get? "position" = some (.int (key.length + 1 + place))

/-- A stretch begins at the first place and is read without fault up to a percent sign at the second. -/
def ReadUpTo (raw : List Char) (place bad : Nat) : Prop :=
  ∃ front literal back value : List Char, raw = front ++ (literal ++ '%' :: back) ∧ StretchBegins front ∧
    front.length = place ∧ front.length + literal.length = bad ∧ Octets literal (value.flatMap String.utf8EncodeChar)

/-- What is found at the place that is reported. -/
inductive Reports (raw : List Char) (place : Nat) : Prop
  | unfinished {front rest : List Char} (whole : raw = front ++ '%' :: rest) (there : front.length = place)
      (cut : ¬ BeginsEscape ('%' :: rest))
  | stretch {front run back : List Char} {bytes : Bytes} (whole : raw = front ++ (run ++ back))
      (there : front.length = place) (begins : StretchBegins front) (ends : StretchEnds back)
      (octets : Octets run bytes) (bad : Utf8.decode? bytes = none)

theorem closeRun_eq_error_iff {start place : Nat} {run : Bytes} :
    closeRun start run = .error place ↔ Utf8.decode? run.reverse = none ∧ start = place := by
  unfold closeRun
  cases Utf8.decode? run.reverse <;> simp

theorem octets_nil : Octets [] ([] : Bytes).reverse := .nil

/-- The characters since the last protected one have been collected, and the place where they begin is kept. -/
theorem reports_of_joinFrom {front stretch rest : List Char} {run : Bytes} {place : Nat}
    (octets : Octets stretch run.reverse) (begins : StretchBegins front)
    (refused : joinFrom front.length (front.length + stretch.length) run (pieces rest) = .error place) :
    Reports (front ++ (stretch ++ rest)) place := by
  induction size : rest.length using Nat.strongRecOn generalizing front stretch rest run with
  | ind n ih =>
    rcases meets_cases rest with rfl | ⟨p, behind, meets⟩ | ⟨behind, rfl, cut⟩
    · obtain ⟨bad, there⟩ := closeRun_eq_error_iff.mp refused
      exact .stretch rfl there begins (Or.inl rfl) octets bad
    · have shorter : behind.length < n := by
        rw [← size, meets.length_eq]
        exact Nat.lt_add_of_pos_left p.width_pos
      rw [meets.pieces_eq] at refused
      cases meets with
      | @plain c _ bare alone =>
        have more : Octets (stretch ++ [c]) ((String.utf8EncodeChar c).reverse ++ run).reverse := by
          have plain := Octets.append octets (.plain bare .nil)
          rwa [List.append_nil, ← List.reverse_reverse (String.utf8EncodeChar c), ← List.reverse_append] at plain
        have later := ih _ shorter more begins (by rw [List.length_append, ← Nat.add_assoc]; exact refused) rfl
        rwa [List.append_assoc, List.singleton_append] at later
      | @octet a b high low _ first second =>
        have more : Octets (stretch ++ ['%', a, b]) (UInt8.ofNat (16 * high + low) :: run).reverse := by
          rw [List.reverse_cons]
          exact Octets.append octets (.escape first second .nil)
        have later := ih _ shorter more begins (by rw [List.length_append, ← Nat.add_assoc]; exact refused) rfl
        rwa [List.append_assoc] at later
      | @guarded c _ quotable =>
        rw [joinFrom] at refused
        cases closed : closeRun front.length run with
        | error start =>
          simp only [closed] at refused
          cases refused
          obtain ⟨bad, there⟩ := closeRun_eq_error_iff.mp closed
          exact .stretch rfl there begins (Or.inr ⟨c, behind, rfl, quotable⟩) octets bad
        | ok before =>
          simp only [closed] at refused
          split at refused
          · rename_i start failed
            cases refused
            have length : (front ++ (stretch ++ ['\\', c])).length = front.length + stretch.length + 2 := by
              simp only [List.length_append, List.length_cons, List.length_nil]
              omega
            have begun : StretchBegins (front ++ (stretch ++ ['\\', c])) :=
              Or.inr ⟨front ++ stretch, c, (List.append_assoc ..).symm, quotable⟩
            have later := ih _ shorter octets_nil begun (by rw [length]; exact failed) rfl
            simpa only [List.append_assoc, List.nil_append, List.cons_append] using later
          · cases refused
    · rw [pieces_unfinished cut] at refused
      cases refused
      exact .unfinished (List.append_assoc ..).symm List.length_append cut

theorem reports_of_readValue {raw : List Char} {place : Nat} (refused : readValue raw = .error place) :
    Reports raw place :=
  have begins : StretchBegins [] := Or.inl rfl
  reports_of_joinFrom octets_nil begins refused

theorem decode?_eq_none_iff {bytes : Bytes} :
    Utf8.decode? bytes = none ↔ ∀ text : List Char, text.flatMap String.utf8EncodeChar ≠ bytes := by
  constructor
  · rintro bad text rfl
    rw [← Utf8.encode_ofList, Utf8.decode?_encode] at bad
    cases bad
  · intro none_encoded
    cases decoded : Utf8.decode? bytes with
    | none => rfl
    | some s =>
      refine absurd ?_ (none_encoded s.toList)
      rw [← Utf8.encode_ofList, String.ofList_toList]
      exact Utf8.encode_of_decode? decoded

theorem Escapes.octets {bytes : Bytes} {run : List Char} (escapes : Escapes bytes run) : Octets run bytes := by
  induction escapes with
  | nil => exact .nil
  | cons first second _ ih => exact .escape first second ih

theorem Escapes.endsEscape {bytes : Bytes} {run : List Char} (escapes : Escapes bytes run) (some_run : run ≠ []) :
    EndsEscape run := by
  induction escapes with
  | nil => exact absurd rfl some_run
  | @cons a b high low bytes rest first second more ih =>
    by_cases empty : rest = []
    · exact ⟨[], a, b, high, low, by rw [empty]; rfl, first, second⟩
    · obtain ⟨before, c, d, high', low', rfl, third, fourth⟩ := ih empty
      exact ⟨'%' :: a :: b :: before, c, d, high', low', rfl, third, fourth⟩

/-- A text goes on with a character that is no percent sign, or not at all. -/
def Apart (text : List Char) : Prop := ∀ c rest, text = c :: rest → c ≠ '%'

theorem Apart.not_beginsEscape {text : List Char} (apart : Apart text) : ¬ BeginsEscape text := by
  rintro ⟨a, b, rest, high, low, rfl, -⟩
  exact apart '%' _ rfl rfl

/-- The escapes at the front of a stretch, and what follows them. -/
theorem Octets.exists_run {run : List Char} {bytes : Bytes} (octets : Octets run bytes) :
    ∃ escapes rest before after, run = escapes ++ rest ∧ bytes = before ++ after ∧ Escapes before escapes ∧
      Octets rest after ∧ Apart rest := by
  induction octets with
  | nil => exact ⟨[], [], [], [], rfl, rfl, .nil, .nil, nofun⟩
  | escape first second _ ih =>
    obtain ⟨escapes, rest, before, after, rfl, rfl, run, others, apart⟩ := ih
    exact ⟨_, rest, _, after, rfl, rfl, .cons first second run, others, apart⟩
  | plain bare more _ =>
    refine ⟨[], _, [], _, rfl, rfl, .nil, .plain bare more, ?_⟩
    rintro d others same
    exact (List.cons.inj same).1 ▸ bare

/-- The escapes at the front of a text are determined by it, when none is left out. -/
theorem Escapes.eq_of_append_eq {left right : Bytes} {first second rest others : List Char}
    (one : Escapes left first) (two : Escapes right second) (same : first ++ rest = second ++ others)
    (ended : ¬ BeginsEscape rest) (ended' : ¬ BeginsEscape others) : first = second ∧ left = right := by
  induction one generalizing right second with
  | nil =>
    cases two with
    | nil => exact ⟨rfl, rfl⟩
    | @cons a b high low _ tail third fourth _ =>
      exact absurd ⟨a, b, tail ++ others, high, low, same, third, fourth⟩ ended
  | @cons a b high low _ tail third fourth _ ih =>
    cases two with
    | nil => exact absurd ⟨a, b, tail ++ rest, high, low, same.symm, third, fourth⟩ ended'
    | @cons c d high' low' _ tail' third' fourth' more' =>
      simp only [List.cons_append, List.cons.injEq, true_and] at same
      obtain ⟨rfl, rfl, later⟩ := same
      obtain ⟨rfl, rfl⟩ := ih more' later
      cases third.read.1.symm.trans third'.read.1
      cases fourth.read.1.symm.trans fourth'.read.1
      exact ⟨rfl, rfl⟩

/-- A character that has no place in an escape keeps those behind it from one before it. -/
theorem EndsEscape.of_append {front rest : List Char} {c : Char} (ends : EndsEscape (front ++ c :: rest))
    (bare : c ≠ '%') (unread : Text.hexValue? c = none) : EndsEscape rest := by
  obtain ⟨before, a, b, high, low, same, first, second⟩ := ends
  rcases List.append_eq_append_iff.mp same with ⟨more, -, inside⟩ | ⟨more, -, inside⟩
  · match more, inside with
    | [], inside => exact absurd (List.cons.inj inside).1 bare
    | _ :: more, inside => exact ⟨more, a, b, high, low, (List.cons.inj inside).2, first, second⟩
  · match more, inside with
    | [], inside => exact absurd (List.cons.inj inside).1.symm bare
    | [_], inside => exact absurd (List.cons.inj (List.cons.inj inside).2).1 (first.ne_of_unread unread)
    | [_, _], inside =>
      exact absurd (List.cons.inj (List.cons.inj (List.cons.inj inside).2).2).1 (second.ne_of_unread unread)
    | _ :: _ :: _ :: more, inside => simp at inside

/-- So does a character that follows whole escapes and is no percent sign, be it a digit. -/
theorem EndsEscape.of_escapes {bytes : Bytes} {run rest : List Char} {c : Char} (escapes : Escapes bytes run)
    (ends : EndsEscape (run ++ c :: rest)) (bare : c ≠ '%') : EndsEscape rest := by
  obtain ⟨before, a, b, high, low, same, first, second⟩ := ends
  have unsigned {d : Char} {value : Nat} (digit : HexDigit d value) : d ≠ '%' := digit.ne_of_unread (by rfl)
  induction escapes generalizing before with
  | nil =>
    cases before with
    | nil => exact absurd (List.cons.inj same).1 bare
    | cons _ before => exact ⟨before, a, b, high, low, (List.cons.inj same).2, first, second⟩
  | cons third fourth _ ih =>
    match before, same with
    | [], same => simp at same
    | [_], same => exact absurd (List.cons.inj (List.cons.inj same).2).1 (unsigned third)
    | [_, _], same => exact absurd (List.cons.inj (List.cons.inj (List.cons.inj same).2).2).1 (unsigned fourth)
    | _ :: _ :: _ :: before, same =>
      exact ih before (List.cons.inj (List.cons.inj (List.cons.inj same).2).2).2

theorem unread_of_quotable {c : Char} (quotable : c ∈ [';', '=', '\\']) : c ≠ '%' ∧ Text.hexValue? c = none := by
  simp only [List.mem_cons, List.not_mem_nil, or_false] at quotable
  rcases quotable with rfl | rfl | rfl <;> decide

/-- No escape reaches from one stretch into the next. -/
theorem StretchBegins.endsEscape {front rest : List Char} (begins : StretchBegins front)
    (ends : EndsEscape (front ++ rest)) : EndsEscape rest := by
  rcases begins with rfl | ⟨before, c, rfl, quotable⟩
  · exact ends
  · obtain ⟨bare, unread⟩ := unread_of_quotable quotable
    have whole : before ++ ['\\', c] ++ rest = before ++ ['\\'] ++ c :: rest := by simp
    rw [whole] at ends
    exact ends.of_append bare unread

/-- In a stretch that is no encoded text, the first run of escapes that is none, and what is read before it. -/
theorem Octets.exists_spoiled {run : List Char} {bytes : Bytes} (octets : Octets run bytes)
    (bad : Utf8.decode? bytes = none) : ∃ (before right after : List Char) (spoiled : Bytes) (value : List Char),
      run = before ++ ('%' :: right ++ after) ∧ Octets before (value.flatMap String.utf8EncodeChar) ∧
        Escapes spoiled ('%' :: right) ∧ Utf8.decode? spoiled = none ∧ ¬ EndsEscape before ∧ Apart after := by
  induction size : run.length using Nat.strongRecOn generalizing run bytes with
  | ind n ih =>
    obtain ⟨escapes, rest, first, second, rfl, rfl, run, others, apart⟩ := octets.exists_run
    by_cases spoiled : Utf8.decode? first = none
    · cases run with
      | nil => exact absurd rfl (decode?_eq_none_iff.mp spoiled [])
      | @cons a b _ _ _ tail third fourth more =>
        refine ⟨[], a :: b :: tail, rest, _, [], rfl, .nil, .cons third fourth more, spoiled, ?_, apart⟩
        rintro ⟨before, _, _, _, _, same, -⟩
        cases before <;> cases same
    · obtain ⟨text, encoded⟩ := not_forall_not.mp (mt decode?_eq_none_iff.mpr spoiled)
      subst encoded
      cases others with
      | nil => exact absurd (by rw [List.append_nil]) (decode?_eq_none_iff.mp bad text)
      | escape => exact absurd rfl (apart _ _ rfl)
      | @plain c rest after bare more =>
        have later : Utf8.decode? after = none := by
          rw [decode?_eq_none_iff] at bad ⊢
          rintro value rfl
          exact bad (text ++ c :: value) (by rw [List.flatMap_append, List.flatMap_cons])
        obtain ⟨before, right, behind, bytes, value, rfl, reads, escaped, none_read, free, apart⟩ :=
          ih rest.length (by simp only [List.length_append, List.length_cons] at size; omega) more later rfl
        refine ⟨escapes ++ c :: before, right, behind, bytes, text ++ c :: value, ?_, ?_, escaped, none_read,
          fun ends => free (ends.of_escapes run bare), apart⟩
        · simp only [List.append_assoc, List.cons_append]
        · rw [List.flatMap_append, List.flatMap_cons]
          exact run.octets.append (.plain bare reads)

/-- At the beginning of a stretch that is read before a run of escapes no percent sign is at fault. -/
theorem not_offends_of_read {front literal right back : List Char} {value : List Char}
    (begins : StretchBegins front) (reads : Octets literal (value.flatMap String.utf8EncodeChar))
    (some_literal : literal ≠ []) (free : ¬ EndsEscape literal) :
    ¬ Offends (front ++ (literal ++ ('%' :: right ++ back))) front.length := by
  obtain ⟨escapes, rest, first, second, rfl, bytes, run, others, apart⟩ := reads.exists_run
  have some_rest : rest ≠ [] := by
    rintro rfl
    rw [List.append_nil] at some_literal free
    exact free (run.endsEscape some_literal)
  obtain ⟨c, more, rfl⟩ := List.exists_cons_of_ne_nil some_rest
  have bare : c ≠ '%' := apart c more rfl
  intro offends
  cases offends with
  | @unfinished front' rest' whole there cut =>
    obtain ⟨rfl, same⟩ := List.append_inj whole there.symm
    cases run with
    | nil => exact bare (List.cons.inj same).1
    | @cons a b high low _ tail third fourth _ =>
      exact cut ⟨a, b, _, high, low, same.symm, third, fourth⟩
  | @spoiled front' left right' back' before after whole there former latter bad begun ended =>
    rw [← List.append_assoc front' left] at whole
    obtain ⟨rfl, same⟩ := List.append_inj whole (by rw [List.length_append, there])
    -- The run begins where the stretch does, since no escape reaches over from the one before.
    have leftmost : left = [] := by
      by_contra some_left
      rcases begins with none_before | ⟨start, d, last, quotable⟩
      · exact some_left (List.append_eq_nil_iff.mp none_before).2
      · obtain ⟨_, a, b, _, _, rfl, -, digit⟩ := former.endsEscape some_left
        have final := congrArg List.getLast? last
        simp only [List.getLast?_append, List.getLast?_cons, List.getLast?_nil, Option.getD_none, Option.getD_some,
          Option.some_or, Option.some.injEq] at final
        exact digit.ne_of_unread (unread_of_quotable quotable).2 final
    subst leftmost
    cases former
    have behind : ¬ BeginsEscape (c :: more ++ ('%' :: right ++ back)) :=
      Apart.not_beginsEscape (by rintro d others same; exact (List.cons.inj same).1 ▸ bare)
    rw [List.append_assoc] at same
    obtain ⟨rfl, rfl⟩ := run.eq_of_append_eq latter same behind ended
    -- The bytes of the run end where a character begins, so that they are an encoded text themselves.
    cases others with
    | escape => exact bare rfl
    | plain _ _ =>
      obtain ⟨text, _, _, encoded, -⟩ := Utf8.exists_char bytes
      exact decode?_eq_none_iff.mp bad text encoded

/-- What is found at the reported place, and the first percent sign at fault from there on. -/
theorem Reports.exists_bad {raw : List Char} {place : Nat} (reports : Reports raw place) :
    ∃ bad, Offends raw bad ∧ (place = bad ∨ ReadUpTo raw place bad) ∧
      (¬ BeginsEscape (raw.drop bad) → place = bad) ∧ (Offends raw place ↔ place = bad) := by
  cases reports with
  | @unfinished front rest whole there cut =>
    have offends := Offends.unfinished whole there cut
    exact ⟨place, offends, Or.inl rfl, fun _ => rfl, iff_of_true offends rfl⟩
  | @stretch front run back bytes whole there begins ends octets bad =>
    obtain ⟨before, right, after, spoiled, value, rfl, reads, escapes, none_read, free, apart⟩ :=
      octets.exists_spoiled bad
    have whole' : raw = front ++ (before ++ ('%' :: right ++ (after ++ back))) := by
      simp only [whole, List.append_assoc]
    have ended : Apart (after ++ back) := by
      rintro c rest same
      cases after with
      | cons d more => exact (List.cons.inj same).1 ▸ apart d more rfl
      | nil =>
        rcases ends with rfl | ⟨d, more, rfl, -⟩
        · cases same
        · exact (List.cons.inj same).1 ▸ by decide
    have offends : Offends raw (front.length + before.length) := by
      have split : raw = (front ++ before) ++ ([] ++ ('%' :: right ++ (after ++ back))) := by
        rw [whole', List.append_assoc, List.nil_append]
      have nothing : Escapes [] [] := .nil
      exact .spoiled split List.length_append nothing escapes none_read
        (fun reaches => free (begins.endsEscape reaches)) ended.not_beginsEscape
    refine ⟨_, offends, Or.inr ⟨front, before, right ++ (after ++ back), value, whole', begins, there, rfl, reads⟩,
      fun cut => absurd ?_ cut, fun here => ?_, fun same => same ▸ offends⟩
    · rw [whole', ← List.append_assoc, ← List.length_append, List.drop_left]
      cases escapes with
      | @cons a b high low _ tail first second _ => exact ⟨a, b, _, high, low, rfl, first, second⟩
    · by_contra apart_from
      have some_literal : before ≠ [] := by
        rintro rfl
        exact apart_from there.symm
      rw [whole', ← there] at here
      exact not_offends_of_read begins reads some_literal free here

theorem exists_readValue_eq_error {raw : List Char} (bad : ∀ value, ¬ Spells (scan raw) value) :
    ∃ place, readValue raw = .error place := by
  cases read : readValue raw with
  | ok value => exact absurd (readValue_eq_ok_iff.mp read) (bad value)
  | error place => exact ⟨place, rfl⟩

/-- A place in the value is told as a place in the segment. -/
theorem readSegment_unread {key raw : List Char} {place : Nat} (word : Word key)
    (unread : readValue raw = .error place) :
    readSegment (key ++ '=' :: raw) =
      .error (.unescapedDelimiter (String.ofList (key ++ '=' :: raw)) (key.length + 1 + place)) := by
  simp only [readSegment_given word, unescape, String.toList_ofList, unread]
  rfl

/-- A text that is refused for an escape is told with one of its segments and a place in the value. The place is that
of a percent sign at fault, or the stretch in which the first of them stands begins there; an unfinished escape is
always pointed at, and the failure points at a fault exactly if nothing is read before the first one. -/
theorem escape_error_points_iff {text : String} {e : Failure} (refused : Parts.read text = .error e)
    (code : e.code = .unescapedDelimiter) :
    ∃ key raw place bad, TellsPlace text e key raw place ∧ Offends raw bad ∧
      (place = bad ∨ ReadUpTo raw place bad) ∧ (¬ BeginsEscape (raw.drop bad) → place = bad) ∧
      (Offends raw place ↔ place = bad) := by
  rcases flaw_of_read refused with
    _ | @⟨scheme, body, segment, before, after, _, first, nonempty, unmarked, split, good, flaw⟩
  · cases code
  rcases flaw with _ | _ | @⟨key, raw, position, rfl, word, bad⟩
  · cases code
  · cases code
  obtain ⟨place, unread⟩ := exists_readValue_eq_error bad
  have failed := readSegment_unread word unread
  have refusedFor : RefusedFor text scheme before (key ++ '=' :: raw) after :=
    ⟨nonempty, ⟨body, first, unmarked, split⟩, good,
      fun pair form => by cases failed.symm.trans (readSegment_of_form form)⟩
  obtain ⟨_, -, failed', read⟩ := refusedFor.read
  cases failed.symm.trans failed'
  have told := Except.error.inj (read.symm.trans refused)
  have inside : key ++ '=' :: raw ∈ filled body := split ▸ List.mem_append_right _ List.mem_cons_self
  obtain ⟨far, report⟩ := (reports_of_readValue unread).exists_bad
  exact ⟨key, raw, place, far, ⟨⟨scheme, body, first, inside⟩, word, by rw [← told]; rfl, by rw [← told]; rfl⟩, report⟩

/-- The first value is read up to a run of escapes behind other escapes and a letter; the second is unfinished at the
second sign. -/
theorem escape_error_points_iff_mixed :
    (∃ key raw place bad,
      TellsPlace "p://a=1;k=x\\;%41b%C3%28" (.unescapedDelimiter "k=x\\;%41b%C3%28" 5) key raw place ∧
      Offends raw bad ∧ (place = bad ∨ ReadUpTo raw place bad) ∧ (¬ BeginsEscape (raw.drop bad) → place = bad) ∧
      (Offends raw place ↔ place = bad)) ∧
    ∃ key raw place bad, TellsPlace "p://k=%FF%4" (.unescapedDelimiter "k=%FF%4" 5) key raw place ∧
      Offends raw bad ∧ (place = bad ∨ ReadUpTo raw place bad) ∧ (¬ BeginsEscape (raw.drop bad) → place = bad) ∧
      (Offends raw place ↔ place = bad) :=
  ⟨escape_error_points_iff (by rfl) rfl, escape_error_points_iff (by rfl) rfl⟩

/-- The letter in front of the run is pointed at, and not the run. -/
theorem escape_error_points_at_letter :
    Parts.read "p://a=b%FF" = .error (.unescapedDelimiter "a=b%FF" 2) ∧ "a=b%FF".toList[2]? = some 'b' ∧
      ¬ Offends "b%FF".toList 0 := by
  refine ⟨by rfl, by rfl, fun offends => ?_⟩
  cases offends with
  | unfinished whole there cut =>
    cases List.length_eq_zero_iff.mp there
    cases whole
  | spoiled whole there =>
    obtain ⟨front, left⟩ := Nat.add_eq_zero_iff.mp there
    cases List.length_eq_zero_iff.mp front
    cases List.length_eq_zero_iff.mp left
    cases whole

end Depot.Connection
