import Depot.Log.Record

namespace Depot.Log

inductive Form where
  | object
  | columns
deriving DecidableEq, Repr

/-- The written fields of the object form: the time, the level, the logger and the message; then those of
the surrounding contexts; then those of the record; then the exception. A name that comes again keeps its
place and takes the later value. -/
def objectFields (context : Table String Value) (r : Record) : Attempt (Table String String) := do
  let time ← r.shownTime
  let level ← r.shownLevel
  let logger ← r.shownLogger
  let message ← r.shownMessage
  let head : Table String String := .ofList [("@timestamp", Value.lineText time), ("level", level.line),
    ("logger", logger.line), ("message", Value.linePoints message)]
  let body := (head.merge (context.map Value.line)).putAll (r.fields.map fun f => (f.1, f.2.line))
  return match ← r.exceptionText? with
    | none => body
    | some text => body.put "exception" (Value.lineText text)

def objectLine (context : Table String Value) (r : Record) : Attempt String := do
  let fields ← objectFields context r
  return "\x7b" ++ ", ".intercalate (fields.entries.map fun f => Value.lineText f.1 ++ ": " ++ f.2) ++ "\x7d"

/-- A text with blanks after it up to the given width. -/
def column (width : Nat) (s : String) : String :=
  String.ofList (s.toList ++ List.replicate (width - s.length) ' ')

/-- Half of a pair has no place in an output. -/
def columnMessage (r : Record) : Attempt String := do
  match Text.ofPoints? (← r.shownMessage) with
  | some message => return message
  | none => .error (.raised .value "surrogates not allowed")

def columnLine (r : Record) : Attempt String := do
  let message ← columnMessage r
  let time ← plainTime r.created.second r.created.millis
  let level ← r.shownLevel
  let logger ← r.shownLogger
  return " | ".intercalate [time, column 8 level.plain, logger.plain, message]

def line (form : Form) (context : Table String Value) (r : Record) : Attempt String :=
  match form with
  | .object => objectLine context r
  | .columns => columnLine r

end Depot.Log
