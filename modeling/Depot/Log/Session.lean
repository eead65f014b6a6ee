import Depot.Action
import Depot.Fields
import Depot.Log.Channel
import Depot.Log.Line
import Depot.Settings.Logging

namespace Depot.Log

structure Logger where
  /-- The channel of the log that it writes to. -/
  channel : String
  fields : Table String Value := .empty

structure Session where
  /-- Microseconds since the epoch. -/
  clock : Int
  /-- The least level at the root. -/
  level : Level := .warning
  /-- The form of the handler's lines; without a handler records are lost. -/
  form : Option Form := none
  /-- Whether noisy channels have been told to be quiet. -/
  quieted : Bool := false
  loggers : Table String Logger := .empty
  /-- Channels that loggers have opened. -/
  opened : List String := []
  /-- Whether a channel takes records of a level, as far as it has been asked. A channel stays with its
  answer until a level is set. -/
  answers : Table (String × Level) Bool := .empty
  /-- What the library's channels have kept. -/
  kept : List Entry := []
  /-- Fields of the contexts, the innermost first, each with those around it. -/
  contexts : List (Table String Value) := []

namespace Session

/-- Channels that only warn once logging is set up. -/
def quietChannels : List String := ["botocore", "aiobotocore", "aioboto3", "urllib3", "asyncio"]

/-- The channel above all those of the library. -/
def libraryChannel : String := "fluentstorage"

def setup (level : Level) (json : Bool) (s : Session) : Session :=
  { s with level, form := some (if json then .object else .columns), quieted := true, answers := .empty }

def configure (settings : Settings.Logging) (s : Session) : Session :=
  s.setup ((Level.ofName? (Text.upper settings.level)).getD .info) settings.json

def handlers (s : Session) : Nat := if s.form.isSome then 1 else 0

/-- The least level of a noisy channel; zero leaves it to the root. -/
def quietLevel (s : Session) : Nat := if s.quieted then Level.warning.number else 0

/-- Whether a channel is one of the given ones or stands under one. -/
def isUnder (s : Session) (tops : List String) (channel : String) : Bool :=
  Channel.isUnder (libraryChannel :: quietChannels ++ s.opened) tops channel

def isLibrary (s : Session) (channel : String) : Bool := s.isUnder [libraryChannel] channel

def threshold (s : Session) (channel : String) : Nat :=
  if s.isLibrary channel then Level.debug.number
  else if s.quieted && s.isUnder quietChannels channel then s.quietLevel
  else s.level.number

/-- Whether a channel takes records of a level. -/
def takes (channel : String) (level : Level) (s : Session) : Bool × Session :=
  match s.answers.get? (channel, level) with
  | some answer => (answer, s)
  | none =>
    let answer : Bool := s.threshold channel ≤ level.number
    (answer, { s with answers := s.answers.put (channel, level) answer })

/-- The root has a channel too. -/
def channelOf (target : String) : String := if target.isEmpty then "root" else target

def loggerOf (s : Session) (name : String) : Logger :=
  (s.loggers.get? name).getD { channel := "app." ++ name }

def declare (name target : String) (fields : List (String × Value)) (s : Session) : Attempt Session := do
  let fields ← Fields.bind ["self", "name"] fields
  let channel := channelOf target
  return { s with loggers := s.loggers.put name ⟨channel, fields⟩, opened := channel :: s.opened }

/-- A logger with the fields of another one and more, no two of one name. -/
def derive (name parent : String) (fields : List (String × Value)) (s : Session) : Attempt Session := do
  let more ← Fields.bind ["self", "name"] fields
  let parent := s.loggerOf parent
  let fields ← Fields.join parent.fields more
  return { s with loggers := s.loggers.put name ⟨parent.channel, fields⟩ }

def context (s : Session) : Table String Value := s.contexts.headD .empty

def enter (fields : List (String × Value)) (s : Session) : Session :=
  { s with contexts := s.context.putAll fields :: s.contexts }

/-- Leaves the innermost context. -/
def leave (s : Session) : Attempt Session :=
  match s.contexts with
  | [] => .error (.raised .index "pop from empty list")
  | _ :: around => .ok { s with contexts := around }

def tick (micros : Int) (s : Session) : Session := { s with clock := s.clock + micros }

/-- A field may not take the name of an attribute. -/
def checkNames (extras : Table String Value) : Attempt Unit :=
  match extras.keys.find? fun key => (Record.attributes ++ ["message", "asctime"]).contains key with
  | some key => .error (.raised .key ("Attempt to overwrite " ++ Text.quote key ++ " in LogRecord"))
  | none => .ok ()

/-- The name of a library's channel within the library. -/
def sourceOf (channel : String) : String :=
  match (libraryChannel ++ ".").toList.isPrefixOf? channel.toList with
  | some rest => String.ofList rest
  | none => channel

/-- What a record adds to the output. A record that has no line is lost. -/
def outputOf (s : Session) (record : Record) : String :=
  match s.form.map fun form => line form s.context record with
  | some (.ok text) => text ++ "\n"
  | _ => ""

/-- What reaches the output. A channel of the library keeps the record instead. -/
def write (name : String) (level : Level) (message : String) (fields : List (String × Value)) :
    Action Session String := do
  let fields ← .ofAttempt (Fields.bind ["self", "message"] fields)
  let logger := (← Action.state).loggerOf name
  if !(← Action.change (takes logger.channel level)) then return ""
  let s ← .state
  let extras := logger.fields.merge fields
  let created ← .ofAttempt (Instant.ofMicros s.clock)
  .ofAttempt (checkNames extras)
  let record : Record := { logger := logger.channel, level := level.number, message, created, extras }
  if s.isLibrary logger.channel then
    let shown ← .ofAttempt (columnMessage record)
    .update fun s => { s with kept := s.kept ++ [⟨level, sourceOf logger.channel, shown, extras.entries⟩] }
    return ""
  return s.outputOf record

end Session
end Depot.Log
