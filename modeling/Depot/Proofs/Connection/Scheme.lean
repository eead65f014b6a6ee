import Depot.Connection.Parts
import Mathlib.Data.List.Infix

namespace Depot.Connection

/-- What stands between a scheme and its parameters. -/
def separator : List Char := [':', '/', '/']

theorem splitScheme?_cons {c : Char} {rest : List Char} (other : ¬ separator <+: c :: rest) :
    splitScheme? (c :: rest) = (splitScheme? rest).map fun split => (c :: split.1, split.2) := by
  rw [splitScheme?]
  rintro after rfl rfl
  exact other ⟨after, rfl⟩

theorem splitScheme?_separator (rest : List Char) : splitScheme? (separator ++ rest) = some ([], rest) := rfl

/-- A separator that begins in a text and ends in the one behind it would overlap itself. -/
theorem prefix_of_prefix_append {s rest : List Char} (some_char : s ≠ [])
    (begins : separator <+: s ++ (separator ++ rest)) : separator <+: s := by
  match s with
  | [] => exact absurd rfl some_char
  | [c] =>
    obtain ⟨_, same⟩ := begins
    simp [separator] at same
  | [c, d] =>
    obtain ⟨_, same⟩ := begins
    simp [separator] at same
  | c :: d :: e :: more =>
    obtain ⟨_, same⟩ := begins
    simp only [separator, List.cons_append, List.nil_append, List.cons.injEq] at same
    obtain ⟨rfl, rfl, rfl, _⟩ := same
    exact ⟨more, rfl⟩

theorem splitScheme?_append {scheme : List Char} (clear : ¬ separator <:+: scheme) (rest : List Char) :
    splitScheme? (scheme ++ (separator ++ rest)) = some (scheme, rest) := by
  induction scheme with
  | nil => exact splitScheme?_separator rest
  | cons c more ih =>
    have other : ¬ separator <+: c :: (more ++ (separator ++ rest)) := fun begins =>
      clear (prefix_of_prefix_append (List.cons_ne_nil c more) begins).isInfix
    have tail : ¬ separator <:+: more := fun inside => clear (List.infix_cons inside)
    rw [List.cons_append, splitScheme?_cons other, ih tail, Option.map_some]

/-- The scheme that is found holds no separator, and with the separator and the rest it makes up the
text. -/
theorem eq_of_splitScheme? {text scheme rest : List Char} (split : splitScheme? text = some (scheme, rest)) :
    text = scheme ++ (separator ++ rest) ∧ ¬ separator <:+: scheme := by
  induction text generalizing scheme with
  | nil => cases split
  | cons c more ih =>
    by_cases begins : separator <+: c :: more
    · obtain ⟨after, same⟩ := begins
      rw [← same, splitScheme?_separator] at split
      cases split
      exact ⟨same.symm, by simp [separator]⟩
    · rw [splitScheme?_cons begins, Option.map_eq_some_iff] at split
      obtain ⟨⟨before, after⟩, splitMore, same⟩ := split
      cases same
      obtain ⟨whole, clear⟩ := ih splitMore
      refine ⟨by rw [whole, List.cons_append], ?_⟩
      rintro inside
      rcases List.infix_cons_iff.mp inside with atHead | inTail
      · refine begins ?_
        rw [whole, ← List.cons_append]
        exact atHead.trans (List.prefix_append _ _)
      · exact clear inTail

end Depot.Connection
