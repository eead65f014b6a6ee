import Depot.Outcome
import Depot.Value.Template

namespace Depot.Payload

/-- The word for the kind of a payload. -/
def typeName : Payload → String
  | value v => v.typeName
  | fault (.raised kind _) => kind.name
  | fault (.reported report) => report.area.name
  | outcome (.ok _) => "Ok"
  | outcome (.error _) => "Err"

/-- The number that a payload is. -/
def number? : Payload → Option Int
  | value (.int n) => some n
  | value (.bool b) => some (if b then 1 else 0)
  | _ => none

def ofNumber (n : Int) : Payload := value (.int n)

def unsupported {α : Type} (sign : String) (p : Payload) : Attempt α :=
  .error (.raised .type ("unsupported operand type(s) for " ++ sign ++ ": '" ++ p.typeName ++ "' and 'int'"))

def notJoined {α : Type} (kind : String) : Attempt α :=
  .error (.raised .type ("can only concatenate " ++ kind ++ " (not \"int\") to " ++ kind))

/-- One more. -/
def increment (p : Payload) : Attempt Payload :=
  match p.number?, p with
  | some n, _ => .ok (ofNumber (n + 1))
  | none, value (.text _) => notJoined "str"
  | none, value (.list _) => notJoined "list"
  | none, p => unsupported "+" p

/-- Twice as much. -/
def twice (p : Payload) : Attempt Payload :=
  match p.number?, p with
  | some n, _ => .ok (ofNumber (2 * n))
  | none, value (.text s) => .ok (value (.text (s ++ s)))
  | none, value (.list items) => .ok (value (.list (items ++ items)))
  | none, p => unsupported "*" p

/-- An error that says a word about the payload. -/
def refused (word : String) (p : Payload) : Payload := outcome (.error (value (.text (word ++ " " ++ p.plain))))

/-- Half of an even number; an odd one is refused. -/
def half (p : Payload) : Attempt Payload :=
  match p.number?, p with
  | some n, p => .ok (if n % 2 = 0 then outcome (.ok (ofNumber (n / 2))) else refused "odd" p)
  | none, value (.text s) => (Template.fill s (.int 2)).map fun _ => refused "odd" p
  | none, p => unsupported "%" p

def wrapped (p : Payload) : Payload := outcome (.ok p)

/-- The outcome that a payload is, asked for the given member. -/
def asOutcome (member : String) (p : Payload) : Attempt Result :=
  match p with
  | outcome o => .ok o
  | p => .error (.raised .member ("'" ++ p.typeName ++ "' object has no attribute '" ++ member ++ "'"))

end Depot.Payload
