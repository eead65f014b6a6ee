import Depot.Fault

namespace Depot.Fields

variable {α : Type}

/-- The fields, written in order, unless one has a name that is taken. -/
def bind (taken : List String) (fields : List (String × α)) : Attempt (Table String α) :=
  if fields.any fun f => taken.contains f.1 then .error (.raised .arguments "")
  else .ok (.ofList fields)

/-- Two groups of fields given side by side may not share a name. -/
def join (first second : Table String α) : Attempt (Table String α) :=
  bind first.keys second.entries |>.map first.merge

end Depot.Fields
