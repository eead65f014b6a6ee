import Depot.Log.Calendar
import Depot.Log.Entry
import Depot.Value.Access
import Depot.Value.Template

namespace Depot.Log

structure Record where
  logger : String
  level : Int
  message : String
  created : Instant
  extras : Table String Value := .empty
  /-- Whether the own attributes have been taken away. -/
  isBare : Bool := false
  exception : Option Fault := none

namespace Record

/-- Attributes that every record has. -/
def attributes : List String :=
  ["name", "msg", "args", "levelname", "levelno", "pathname", "filename", "module", "exc_info", "exc_text",
    "stack_info", "lineno", "funcName", "created", "msecs", "relativeCreated", "thread", "threadName",
    "processName", "process"]

/-- The word for a level. -/
def levelName (level : Int) : String :=
  if level = 0 then "NOTSET"
  else if level = 50 then "CRITICAL"
  else match Level.all.find? fun l => (l.number : Int) = level with
    | some l => l.name
    | none => "Level " ++ toString level

/-- Sets an extra attribute. Three names are those of the record's kind, of those who watch it, and of the
table of all its attributes. -/
def set (r : Record) (name : String) (v : Value) : Attempt Record :=
  match name, v with
  | "__class__", v =>
    .error (.raised .type ("__class__ must be set to a class, not '" ++ v.typeName ++ "' object"))
  | "__weakref__", _ =>
    .error (.raised .member "attribute '__weakref__' of 'LogRecord' objects is not writable")
  | "__dict__", .record fields => .ok { r with extras := .ofList fields, isBare := true }
  | "__dict__", v =>
    .error (.raised .type ("__dict__ must be set to a dictionary, not a '" ++ v.typeName ++ "'"))
  | name, v => .ok { r with extras := r.extras.put name v }

/-- What an own attribute gives, unless all of them are gone. -/
def own {α : Type} (r : Record) (name : String) (given : Attempt α) : Attempt α :=
  if r.isBare then .error (.raised .member ("'LogRecord' object has no attribute " ++ Text.quote name))
  else given

/-- An attribute, which an extra one may have replaced. -/
def attributeOr (r : Record) (name : String) (given : Value) : Attempt Value :=
  match r.extras.get? name with
  | some v => .ok v
  | none => r.own name (.ok given)

def shownLevel (r : Record) : Attempt Value := r.attributeOr "levelname" (.text (levelName r.level))

def shownLogger (r : Record) : Attempt Value := r.attributeOr "name" (.text r.logger)

/-- The time of a record. An extra attribute in its place counts whole seconds. -/
def shownTime (r : Record) : Attempt String :=
  match r.extras.get? "created" with
  | none => r.own "created" (isoTime r.created.split.1 r.created.split.2)
  | some (.int n) => isoTime n 0
  | some (.bool b) => isoTime (if b then 1 else 0) 0
  | some v => .error (.raised .type ("'" ++ v.typeName ++ "' object cannot be interpreted as an integer"))

/-- The message with its places filled, if there is something to fill them. An extra attribute may hide
the way to it. -/
def shownMessage (r : Record) : Attempt (List Text.Point) :=
  match r.extras.get? "getMessage" with
  | some v => .error (.raised .type ("'" ++ v.typeName ++ "' object is not callable"))
  | none => do
    let message := (← r.attributeOr "msg" (.text r.message)).plain
    let values ← r.attributeOr "args" .null
    if values.isTruthy then Template.fill message values else return Text.points message

/-- The extra attributes that are no others. -/
def fields (r : Record) : List (String × Value) :=
  r.extras.entries.filter fun e => !(attributes ++ ["message"]).contains e.1

/-- An exception without text shows its kind only. The kind of a failure is named in full. -/
def faultText (fault : Fault) : String :=
  match fault with
  | .raised kind _ => kind.name ++ (if fault.plain.isEmpty then "" else ": " ++ fault.plain)
  | .reported report => report.area.fullName ++ ": " ++ report.sentence

/-- The text for an extra attribute in the place of an exception: a kind, an exception and a trace. Only an
absent exception without a trace can be shown. -/
def standInText (v : Value) : Attempt String := do
  match ← v.item 2 with
  | .null =>
    match ← v.item 1 with
    | .null => return "NoneType: None"
    | value => value.lacks "__suppress_context__"
  | trace => trace.lacks "tb_frame"

/-- The text of the exception, if there is one. -/
def exceptionText? (r : Record) : Attempt (Option String) :=
  match r.extras.get? "exc_info" with
  | none => r.own "exc_info" (.ok (r.exception.map faultText))
  | some v => if v.isTruthy then (standInText v).map some else .ok none

end Record
end Depot.Log
