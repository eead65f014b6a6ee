import Depot.Proofs.Connection.Segments

namespace Depot.Connection

/-- A character that stands alone, or one with the backslash that protects it. -/
inductive Token where
  | single (c : Char)
  | guarded (c : Char)
deriving DecidableEq

def Token.text : Token → List Char
  | single c => [c]
  | guarded c => ['\\', c]

def scan : List Char → List Token
  | [] => []
  | '\\' :: c :: rest =>
    if c ∈ [';', '=', '\\'] then .guarded c :: scan rest else .single '\\' :: scan (c :: rest)
  | c :: rest => .single c :: scan rest

/-- The stretches of a text between its semicolons that stand alone. -/
def cuts (body : List Char) : List (List Char) :=
  ((scan body).splitOnP fun t => t = .single ';').map fun tokens => tokens.flatMap Token.text

theorem isQuotable_iff {c : Char} : isQuotable c ↔ c ∈ [';', '=', '\\'] := by
  simp [isQuotable, or_assoc]

/-- A character takes the next one with it. -/
def Guards (c : Char) (rest : List Char) : Prop := c = '\\' ∧ ∃ d more, rest = d :: more ∧ d ∈ [';', '=', '\\']

theorem not_guards {c : Char} (other : c ≠ '\\') (rest : List Char) : ¬ Guards c rest :=
  fun guards => other guards.1

theorem not_guards_of_bare {c : Char} (bare : ¬ isQuotable c) (rest : List Char) : ¬ Guards '\\' (c :: rest) := by
  rintro ⟨-, d, more, same, quotable⟩
  cases same
  exact bare (isQuotable_iff.mpr quotable)

theorem not_guards_of_alone {c : Char} {rest : List Char}
    (alone : ∀ d more, c = '\\' → rest = d :: more → False) : ¬ Guards c rest := by
  rintro ⟨slash, d, more, same, -⟩
  exact alone d more slash same

theorem scan_guarded {c : Char} (quotable : c ∈ [';', '=', '\\']) (rest : List Char) :
    scan ('\\' :: c :: rest) = .guarded c :: scan rest := by
  rw [scan, if_pos quotable]

theorem scan_single {c : Char} {rest : List Char} (alone : ¬ Guards c rest) :
    scan (c :: rest) = .single c :: scan rest := by
  by_cases slash : c = '\\'
  · subst slash
    cases rest with
    | nil => rfl
    | cons d more => rw [scan, if_neg fun quotable => alone ⟨rfl, d, more, rfl, quotable⟩]
  · rw [scan]
    exact fun _ _ same _ => slash same

/-- A text begins with a protected character, or with one that stands alone. -/
theorem scan_cases (text : List Char) :
    text = [] ∨ (∃ c rest, text = '\\' :: c :: rest ∧ c ∈ [';', '=', '\\'] ∧ scan text = .guarded c :: scan rest) ∨
      ∃ c rest, text = c :: rest ∧ ¬ Guards c rest ∧ scan text = .single c :: scan rest := by
  cases text with
  | nil => exact Or.inl rfl
  | cons c rest =>
    by_cases guards : Guards c rest
    · obtain ⟨rfl, d, more, rfl, quotable⟩ := guards
      exact Or.inr (Or.inl ⟨d, more, rfl, quotable, scan_guarded quotable more⟩)
    · exact Or.inr (Or.inr ⟨c, rest, rfl, guards, scan_single guards⟩)

theorem of_scan_nil {text : List Char} (scanned : scan text = []) : text = [] := by
  rcases scan_cases text with rfl | ⟨c, rest, rfl, _, whole⟩ | ⟨c, rest, rfl, _, whole⟩
  · rfl
  · cases whole.symm.trans scanned
  · cases whole.symm.trans scanned

theorem of_scan_single {text : List Char} {c : Char} {tokens : List Token}
    (scanned : scan text = .single c :: tokens) :
    ∃ rest, text = c :: rest ∧ scan rest = tokens ∧ ¬ Guards c rest := by
  rcases scan_cases text with rfl | ⟨d, rest, rfl, _, whole⟩ | ⟨d, rest, rfl, alone, whole⟩
  · cases scanned
  · rw [whole] at scanned
    cases scanned
  · rw [whole] at scanned
    cases scanned
    exact ⟨rest, rfl, rfl, alone⟩

theorem of_scan_guarded {text : List Char} {c : Char} {tokens : List Token}
    (scanned : scan text = .guarded c :: tokens) :
    ∃ rest, text = '\\' :: c :: rest ∧ scan rest = tokens ∧ c ∈ [';', '=', '\\'] := by
  rcases scan_cases text with rfl | ⟨d, rest, rfl, quotable, whole⟩ | ⟨d, rest, rfl, _, whole⟩
  · cases scanned
  · rw [whole] at scanned
    cases scanned
    exact ⟨rest, rfl, rfl, quotable⟩
  · rw [whole] at scanned
    cases scanned

theorem cuts_semicolon (rest : List Char) : cuts (';' :: rest) = [] :: cuts rest := by
  rw [cuts, scan_single (not_guards (by decide) rest), List.splitOnP_cons_eq_if_modifyHead, if_pos (by decide),
    List.map_cons]
  rfl

/-- A token that is no semicolon goes into the first stretch. -/
theorem cuts_of_scan {body rest : List Char} {t : Token} (scanned : scan body = t :: scan rest)
    (other : t ≠ .single ';') : cuts body = (cuts rest).modifyHead (t.text ++ ·) := by
  rw [cuts, scanned, List.splitOnP_cons_eq_if_modifyHead, if_neg (by simpa using other), cuts]
  cases (scan rest).splitOnP fun t => t = .single ';' with
  | nil => rfl
  | cons first others => rfl

theorem texts_segmentsFrom (position : Nat) (body : List Char) :
    (segmentsFrom position body).map Segment.text = cuts body := by
  have extended (front : List Char) (start position : Nat) (body : List Char) :
      (extendFirst front start (segmentsFrom position body)).map Segment.text =
        ((segmentsFrom position body).map Segment.text).modifyHead (front ++ ·) := by
    obtain ⟨text, rest, same⟩ := segmentsFrom_start position body
    rw [same]
    rfl
  fun_induction segmentsFrom position body with
  | case1 => rfl
  | case2 position c rest quotable ih =>
    rw [extended, ih,
      cuts_of_scan (scan_guarded (isQuotable_iff.mp quotable) rest) Token.noConfusion]
    rfl
  | case3 position c rest bare ih =>
    rw [extended, ih, cuts_of_scan (scan_single (not_guards_of_bare bare rest)) (by decide)]
    rfl
  | case4 position rest ih => rw [List.map_cons, ih, cuts_semicolon]
  | case5 position c rest notQuoting notCut ih =>
    have other : Token.single c ≠ .single ';' := fun same => notCut (Token.single.inj same)
    rw [extended, ih, cuts_of_scan (scan_single (not_guards_of_alone notQuoting)) other]
    rfl

end Depot.Connection
