import Depot.Proofs.Connection.Grammar

namespace Depot.Connection

/-- The scan of a text ends on a backslash that stands alone, and that would take the next character with it. -/
def EndsOpen (text : List Char) : Prop := (scan text).getLast? = some (.single '\\')

instance (text : List Char) : Decidable (EndsOpen text) := inferInstanceAs (Decidable (_ = _))

theorem EndsOpen.of_scan {text rest : List Char} {t : Token} (scanned : scan text = t :: scan rest)
    (atEnd : EndsOpen rest) : EndsOpen text := by
  rw [EndsOpen, scanned, List.getLast?_cons, atEnd, Option.getD_some]

/-- What follows a text whose scan is closed is scanned by itself. -/
theorem scan_append {first : List Char} (closed : ¬ EndsOpen first) (second : List Char) :
    scan (first ++ second) = scan first ++ scan second := by
  fun_induction scan first with
  | case1 => rfl
  | case2 c rest quotable ih =>
    have more := ih fun atEnd => closed (.of_scan (scan_guarded quotable rest) atEnd)
    rw [List.cons_append, List.cons_append, scan_guarded quotable, more, List.cons_append]
  | case3 c rest bare ih =>
    have bare := mt isQuotable_iff.mp bare
    have more := ih fun atEnd => closed (.of_scan (scan_single (not_guards_of_bare bare rest)) atEnd)
    rw [List.cons_append, List.cons_append, scan_single (not_guards_of_bare bare _), ← List.cons_append, more,
      List.cons_append]
  | case4 c rest notQuoting ih =>
    have alone := not_guards_of_alone notQuoting
    have more := ih fun atEnd => closed (.of_scan (scan_single alone) atEnd)
    -- Only a backslash at the very end could take something from the text behind.
    have apart : ¬ Guards c (rest ++ second) := by
      rintro ⟨slash, d, others, same, quotable⟩
      cases rest with
      | nil =>
        subst slash
        exact closed rfl
      | cons e rest =>
        obtain ⟨rfl, -⟩ := List.cons.inj same
        exact notQuoting e rest slash rfl
    rw [List.cons_append, scan_single apart, more, List.cons_append]

theorem cuts_append {first : List Char} (closed : ¬ EndsOpen first) (second : List Char) :
    cuts (first ++ ';' :: second) = cuts first ++ cuts second := by
  rw [cuts, scan_append closed, scan_single (not_guards (by decide) second),
    List.splitOnP_append_cons _ _ (by decide), List.map_append, cuts, cuts]

theorem filled_append {first : List Char} (closed : ¬ EndsOpen first) (second : List Char) :
    filled (first ++ ';' :: second) = filled first ++ filled second := by
  rw [filled, cuts_append closed, List.filter_append, filled, filled]

/-- The marker holds no semicolon, so that it stands before the first one. -/
theorem marked_of_append {first second : List Char} (marked : nativeMarker <+: first ++ ';' :: second) :
    nativeMarker <+: first := by
  obtain ⟨after, whole⟩ := marked
  rcases List.append_eq_append_iff.mp whole with ⟨more, rfl, -⟩ | ⟨beyond, marker, rest⟩
  · exact List.prefix_append nativeMarker more
  · cases beyond with
    | nil =>
      rw [List.append_nil] at marker
      exact marker ▸ List.prefix_rfl
    | cons c others =>
      obtain ⟨rfl, -⟩ := List.cons.inj rest
      have inside : ';' ∈ nativeMarker := by simp [marker]
      exact absurd inside (by decide)

section
variable {scheme : String} (nonempty : scheme ≠ "") (clear : ¬ separator <:+: scheme.toList)
include nonempty clear

theorem read_list {body : String} (unmarked : ¬ nativeMarker <+: body.toList) :
    Parts.read (scheme ++ "://" ++ body) =
      ((filled body.toList).mapM readSegment).map fun pairs => ⟨scheme, pairs, none⟩ := by
  have some_char : scheme.toList ≠ [] := by simpa using nonempty
  have split : splitScheme? (scheme ++ "://" ++ body).toList = some (scheme.toList, body.toList) := by
    have whole : (scheme ++ "://" ++ body).toList = scheme.toList ++ (separator ++ body.toList) := by
      simp [separator]
    rw [whole, splitScheme?_append clear]
  rw [read_filled some_char split unmarked, String.ofList_toList]

/-- Two lists with a semicolon between them are read one after the other. What is wrong with the first is what is
wrong with both, and else what is wrong with the second; a failure does not depend on the list in front of it. -/
theorem read_joined {first second : String} (plainFirst : ¬ nativeMarker <+: first.toList)
    (plainSecond : ¬ nativeMarker <+: second.toList) (closed : ¬ EndsOpen first.toList) :
    Parts.read (scheme ++ "://" ++ first ++ ";" ++ second) = do
      let before ← Parts.read (scheme ++ "://" ++ first)
      let behind ← Parts.read (scheme ++ "://" ++ second)
      return ⟨scheme, before.pairs ++ behind.pairs, none⟩ := by
  have whole : (first ++ ";" ++ second).toList = first.toList ++ ';' :: second.toList := by simp
  have unmarked : ¬ nativeMarker <+: (first ++ ";" ++ second).toList := by
    rw [whole]
    exact mt marked_of_append plainFirst
  have joined := read_list nonempty clear unmarked
  rw [whole, filled_append closed, List.mapM_append, ← String.append_assoc, ← String.append_assoc] at joined
  rw [joined, read_list nonempty clear plainFirst, read_list nonempty clear plainSecond]
  cases (filled first.toList).mapM readSegment with
  | error e => rfl
  | ok pairs => cases (filled second.toList).mapM readSegment <;> rfl

end

/-- The first list ends on a backslash that is itself protected. A failure in the second is told as if that list
stood alone. -/
theorem read_joined_protected :
    Parts.read "s3://a=x\\;y;b=c:\\\\;d=1;a=2" =
        .ok ⟨"s3", [("a", "x;y"), ("b", "c:\\"), ("d", "1"), ("a", "2")], none⟩ ∧
      Parts.read "s3://b=c:\\\\;d=1%" = .error (.unescapedDelimiter "d=1%" 3) := by
  have clear : ¬ separator <:+: "s3".toList := by decide
  have good := @read_joined "s3" (by decide) clear "a=x\\;y;b=c:\\\\" "d=1;a=2" (by decide) (by decide) (by decide)
  have bad := @read_joined "s3" (by decide) clear "b=c:\\\\" "d=1%" (by decide) (by decide) (by decide)
  exact ⟨good.trans (by rfl), bad.trans (by rfl)⟩

end Depot.Connection
