namespace Depot

structure Timestamp where
  nanos : Int
deriving DecidableEq, Repr

namespace Timestamp

instance : LE Timestamp := ⟨fun a b => a.nanos ≤ b.nanos⟩

instance : LT Timestamp := ⟨fun a b => a.nanos < b.nanos⟩

instance (a b : Timestamp) : Decidable (a ≤ b) := inferInstanceAs (Decidable (a.nanos ≤ b.nanos))

instance (a b : Timestamp) : Decidable (a < b) := inferInstanceAs (Decidable (a.nanos < b.nanos))

def render (t : Timestamp) : String := "Timestamp(" ++ toString t.nanos ++ "ns)"

/-- In ascending order, equal ones in the given order. -/
def sort (times : List Timestamp) : List Timestamp := times.mergeSort fun a b => a ≤ b

end Timestamp
end Depot
