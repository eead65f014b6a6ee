import Depot.Fault

namespace Depot.Value

def lacks {α : Type} (v : Value) (member : String) : Attempt α :=
  .error (.raised .member ("'" ++ v.typeName ++ "' object has no attribute '" ++ member ++ "'"))

/-- The item at a place of a list or a text. The fields of a record have names, not places. -/
def item (place : Nat) (v : Value) : Attempt Value :=
  match v with
  | list items =>
    match items[place]? with
    | some item => .ok item
    | none => .error (.raised .index "list index out of range")
  | text s =>
    match s.toList[place]? with
    | some c => .ok (text (String.singleton c))
    | none => .error (.raised .index "string index out of range")
  | record _ => .error (.raised .place (toString place))
  | v => .error (.raised .type ("'" ++ v.typeName ++ "' object is not subscriptable"))

/-- Asks a value for a field, as only records allow. -/
def fieldOf (v : Value) (name : String) : Attempt (Option Value) :=
  match v with
  | record _ => .ok (v.field? name)
  | v => v.lacks "get"

end Depot.Value
