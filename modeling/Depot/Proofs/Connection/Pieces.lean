import Depot.Proofs.Connection.Joining
import Mathlib.Algebra.GroupWithZero.Nat

namespace Depot.Connection

/-- A piece stands at the front of a text, with the rest behind it. -/
inductive Meets : List Char → Piece → List Char → Prop
  | plain {c : Char} {rest : List Char} (bare : c ≠ '%') (alone : ¬ Guards c rest) : Meets (c :: rest) (.plain c) rest
  | guarded {c : Char} {rest : List Char} (quotable : c ∈ [';', '=', '\\']) :
      Meets ('\\' :: c :: rest) (.guarded c) rest
  | octet {a b : Char} {high low : Nat} {rest : List Char} (first : HexDigit a high) (second : HexDigit b low) :
      Meets ('%' :: a :: b :: rest) (.octet (UInt8.ofNat (16 * high + low))) rest

/-- A text begins with a percent sign and two digits. -/
def BeginsEscape (text : List Char) : Prop :=
  ∃ a b rest high low, text = '%' :: a :: b :: rest ∧ HexDigit a high ∧ HexDigit b low

/-- How many characters a piece takes up. -/
def Piece.width : Piece → Nat
  | plain _ => 1
  | guarded _ => 2
  | octet _ => 3
  | stray => 1

theorem Piece.width_pos (p : Piece) : 0 < p.width := by
  cases p <;> exact Nat.succ_pos _

/-- How far some pieces reach into a text. -/
def reach (ps : List Piece) : Nat := (ps.map Piece.width).sum

variable {text rest : List Char} {p : Piece}

theorem Meets.pieces_eq (meets : Meets text p rest) : pieces text = p :: pieces rest := by
  cases meets with
  | plain bare alone => exact pieces_plain bare alone
  | guarded quotable => exact pieces_guarded quotable rest
  | octet first second => exact pieces_escape_octet first second rest

theorem pieces_unfinished (cut : ¬ BeginsEscape ('%' :: rest)) : pieces ('%' :: rest) = [.stray] := by
  match rest with
  | [] => rfl
  | [a] => rfl
  | a :: b :: more =>
    cases pair : hexPair? a b with
    | none => simp only [pieces, pair]
    | some octet =>
      obtain ⟨high, low, first, second, -⟩ := hexPair?_eq_some_iff.mp pair
      exact absurd ⟨a, b, more, high, low, rfl, first, second⟩ cut

/-- A text is read to its end, or a piece stands at its front, or a percent sign that begins no escape. -/
theorem meets_cases (text : List Char) : text = [] ∨ (∃ p rest, Meets text p rest) ∨
    ∃ rest, text = '%' :: rest ∧ ¬ BeginsEscape text := by
  match text with
  | [] => exact Or.inl rfl
  | c :: rest =>
    refine Or.inr ?_
    by_cases sign : c = '%'
    · subst sign
      by_cases begins : BeginsEscape ('%' :: rest)
      · obtain ⟨a, b, more, high, low, same, first, second⟩ := begins
        exact Or.inl ⟨_, more, by rw [same]; exact .octet first second⟩
      · exact Or.inr ⟨rest, rfl, begins⟩
    · by_cases guards : Guards c rest
      · obtain ⟨rfl, d, more, rfl, quotable⟩ := guards
        exact Or.inl ⟨_, _, .guarded quotable⟩
      · exact Or.inl ⟨_, _, .plain sign guards⟩

theorem Meets.length_eq (meets : Meets text p rest) : text.length = p.width + rest.length := by
  cases meets <;> simp only [List.length_cons, Piece.width] <;> omega

theorem Meets.front (meets : Meets text p rest) : ∃ front, text = front ++ rest ∧ front.length = p.width := by
  cases meets with
  | @plain c => exact ⟨[c], rfl, rfl⟩
  | @guarded c => exact ⟨['\\', c], rfl, rfl⟩
  | @octet a b => exact ⟨['%', a, b], rfl, rfl⟩

theorem HexDigit.ne_of_unread {c d : Char} {value : Nat} (digit : HexDigit c value)
    (unread : Text.hexValue? d = none) : c ≠ d := by
  rintro rfl
  cases digit.read.1.symm.trans unread

/-- A semicolon within a piece is the whole piece, or the character that a backslash protects. -/
theorem Meets.semicolon_cases {place : Nat} (meets : Meets text p rest) (there : text[place]? = some ';')
    (within : place < p.width) : .plain ';' ∈ p :: pieces rest ∨
      ∃ before after, p :: pieces rest = before ++ .guarded ';' :: after ∧ place = reach before + 1 := by
  cases meets with
  | plain bare alone =>
    obtain rfl : place = 0 := Nat.lt_one_iff.mp within
    cases there
    exact Or.inl List.mem_cons_self
  | guarded quotable =>
    match place, there with
    | 0, there => cases there
    | 1, there =>
      cases there
      exact Or.inr ⟨[], _, rfl, rfl⟩
  | octet first second =>
    match place, there with
    | 0, there => cases there
    | 1, there => exact absurd (Option.some.inj there) (first.ne_of_unread (by rfl))
    | 2, there => exact absurd (Option.some.inj there) (second.ne_of_unread (by rfl))

/-- The tokens that a piece is made of come before those of the rest. -/
theorem Meets.scan_eq (meets : Meets text p rest) : ∃ tokens, scan text = tokens ++ scan rest := by
  cases meets with
  | @plain c rest bare alone => exact ⟨[.single c], scan_single alone⟩
  | @guarded c rest quotable => exact ⟨[.guarded c], scan_guarded quotable rest⟩
  | @octet a b high low rest first second =>
    refine ⟨[.single '%', .single a, .single b], ?_⟩
    rw [scan_single (not_guards (by decide) _), scan_single (first.not_guards _), scan_single (second.not_guards _)]
    rfl

/-- A plain character is a token by itself. -/
theorem scan_of_plain {c : Char} {after : List Piece} (read : pieces text = .plain c :: after) :
    ∃ rest, text = c :: rest ∧ scan text = .single c :: scan rest ∧ pieces rest = after := by
  rcases meets_cases text with rfl | ⟨p, rest, meets⟩ | ⟨rest, rfl, cut⟩
  · cases read
  · have same := meets.pieces_eq
    rw [read] at same
    obtain ⟨rfl, rfl⟩ := List.cons.inj same
    cases meets with
    | plain bare alone => exact ⟨rest, rfl, scan_single alone, rfl⟩
  · rw [pieces_unfinished cut] at read
    cases read

/-- A piece stands where those before it reach, and the tokens before it are whole. -/
theorem exists_of_pieces_eq {before after : List Piece} (read : pieces text = before ++ p :: after) :
    ∃ front behind tokens, text = front ++ behind ∧ front.length = reach before ∧ pieces behind = p :: after ∧
      scan text = tokens ++ scan behind := by
  induction before generalizing text with
  | nil => exact ⟨[], text, [], rfl, rfl, read, rfl⟩
  | cons q before ih =>
    rcases meets_cases text with rfl | ⟨r, rest, meets⟩ | ⟨rest, rfl, cut⟩
    · cases read
    · have same := meets.pieces_eq
      rw [read] at same
      obtain ⟨rfl, later⟩ := List.cons.inj same
      obtain ⟨front, behind, tokens, rfl, place, pieces_eq, scan_eq⟩ := ih later.symm
      obtain ⟨first, first_eq⟩ := meets.scan_eq
      obtain ⟨start, rfl, width⟩ := meets.front
      refine ⟨start ++ front, behind, first ++ tokens, (List.append_assoc ..).symm, ?_, pieces_eq, ?_⟩
      · rw [List.length_append, width, place]
        rfl
      · rw [first_eq, scan_eq, List.append_assoc]
    · rw [pieces_unfinished cut] at read
      cases before <;> cases read

/-- A semicolon up to where a text is read is a plain character there, or it is protected. -/
theorem semicolon_cases {place : Nat} (there : text[place]? = some ';') (reached : place < reach (pieces text)) :
    .plain ';' ∈ pieces text ∨
      ∃ before after, pieces text = before ++ .guarded ';' :: after ∧ place = reach before + 1 := by
  induction size : text.length using Nat.strongRecOn generalizing text place with
  | ind n ih =>
    rcases meets_cases text with rfl | ⟨p, rest, meets⟩ | ⟨rest, rfl, cut⟩
    · cases there
    · -- The semicolon lies behind the first piece, where the text is shorter, or within it.
      by_cases behind : p.width ≤ place
      · have shorter : rest.length < n := by
          have length := meets.length_eq
          have positive := p.width_pos
          omega
        obtain ⟨start, rfl, width⟩ := meets.front
        rw [List.getElem?_append_right (by omega), width] at there
        rw [meets.pieces_eq, reach, List.map_cons, List.sum_cons] at reached
        rw [meets.pieces_eq]
        rcases ih _ shorter there (by rw [reach]; omega) rfl with bare | ⟨before, after, read, place_eq⟩
        · exact Or.inl (List.mem_cons_of_mem _ bare)
        · refine Or.inr ⟨p :: before, after, by rw [read, List.cons_append], ?_⟩
          rw [reach, List.map_cons, List.sum_cons]
          rw [reach] at place_eq
          omega
      · rw [meets.pieces_eq]
        exact meets.semicolon_cases there (Nat.lt_of_not_le behind)
    · rw [pieces_unfinished cut] at reached
      have atFront : place = 0 := Nat.lt_one_iff.mp reached
      subst atFront
      cases there

end Depot.Connection
