import Depot.Fault

namespace Depot

/-- What an outcome may carry, as its value or as its error. -/
inductive Payload where
  | value (v : Value)
  | fault (f : Fault)
  | outcome (o : Except Payload Payload)

namespace Payload

/-- The form used in diagnostics. -/
def quoted : Payload → String
  | value v => v.quoted
  | fault f => f.quoted
  | outcome (.ok p) => "Ok(" ++ p.quoted ++ ")"
  | outcome (.error p) => "Err(" ++ p.quoted ++ ")"

/-- The form inside a sentence. -/
def plain : Payload → String
  | value v => v.plain
  | fault f => f.plain
  | outcome o => (outcome o).quoted

end Payload

/-- An outcome over payloads. -/
abbrev Result := Except Payload Payload

namespace Result

def isOk : Result → Bool
  | .ok _ => true
  | .error _ => false

/-- The value. An error that is a fault is raised again; any other is described by a new fault. -/
def unwrap : Result → Attempt Payload
  | .ok p => .ok p
  | .error (.fault f) => .error f
  | .error p => .error (.raised .runtime ("Called unwrap() on Err: " ++ p.plain))

def unwrapOr (default : Payload) : Result → Payload
  | .ok p => p
  | .error _ => default

def quoted (r : Result) : String := (Payload.outcome r).quoted

/-- Applies a function, which a fault may interrupt, to the value. -/
def mapValue (f : Payload → Attempt Payload) : Result → Attempt Result
  | .ok p => (f p).map .ok
  | .error e => .ok (.error e)

/-- Goes on with the value. The function may also answer with what is no outcome. -/
def andThen (f : Payload → Attempt Payload) : Result → Attempt Payload
  | .ok p => f p
  | .error e => .ok (.outcome (.error e))

end Result
end Depot
