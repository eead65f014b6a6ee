import Depot.Supply
import Mathlib.Data.List.Basic

namespace Depot.Supply

/-- The supply after some more names have been drawn. -/
structure Grows (s later : Supply) : Prop where
  nth : later.nth = s.nth
  drawn : s.drawn ≤ later.drawn

theorem Grows.refl (s : Supply) : s.Grows s := ⟨rfl, Nat.le_refl _⟩

theorem Grows.trans {s t u : Supply} (left : s.Grows t) (right : t.Grows u) : s.Grows u :=
  ⟨right.nth.trans left.nth, Nat.le_trans left.drawn right.drawn⟩

theorem grows_advance (s : Supply) : s.Grows s.advance := ⟨rfl, Nat.le_succ s.drawn⟩

/-- The names drawn between two moments, in order. -/
def since (s later : Supply) : List String :=
  (List.range' s.drawn (later.drawn - s.drawn)).map later.nth

theorem since_self (s : Supply) : s.since s = [] := by simp [since]

theorem since_append {s t u : Supply} (left : s.Grows t) (right : t.Grows u) :
    s.since u = s.since t ++ t.since u := by
  have lengths : u.drawn - s.drawn = (t.drawn - s.drawn) + (u.drawn - t.drawn) := by
    have := left.drawn
    have := right.drawn
    omega
  have place : s.drawn + (t.drawn - s.drawn) = t.drawn := by
    have := left.drawn
    omega
  rw [since, since, since, lengths, ← List.range'_append_1, List.map_append, right.nth, place]

theorem since_advance {s t : Supply} (growth : s.Grows t) : s.since t.advance = s.since t ++ [t.next] := by
  rw [since_append growth (grows_advance t)]
  simp [since, advance, next]

theorem since_prefix {s t u : Supply} (left : s.Grows t) (right : t.Grows u) :
    s.since t <+: s.since u :=
  ⟨t.since u, (since_append left right).symm⟩

end Depot.Supply
