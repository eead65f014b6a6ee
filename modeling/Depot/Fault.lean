import Depot.Timestamp
import Depot.Value

namespace Depot

/-- Kinds of faults that the surroundings raise. -/
inductive FaultKind where
  | value
  | type
  /-- The arguments of a call do not fit its parameters. -/
  | arguments
  | key
  /-- A record, whose fields have names, was asked for the item at a place. -/
  | place
  | index
  | runtime
  | decoding
  | encoding
  | packing
  | overflow
  | memory
  | system
  | connection
  | client
  /-- A value lacks the member asked of it. -/
  | member
deriving DecidableEq, Repr, Inhabited

def FaultKind.name : FaultKind → String
  | value => "ValueError"
  | type => "TypeError"
  | arguments => "TypeError"
  | key => "KeyError"
  | place => "KeyError"
  | index => "IndexError"
  | runtime => "RuntimeError"
  | decoding => "UnicodeDecodeError"
  | encoding => "UnicodeEncodeError"
  | packing => "StructError"
  | overflow => "OverflowError"
  | memory => "MemoryError"
  | system => "OSError"
  | connection => "ConnectionError"
  | client => "ClientError"
  | member => "AttributeError"

def FaultKind.all : List FaultKind :=
  [value, type, arguments, key, place, index, runtime, decoding, encoding, packing, overflow, memory, system,
    connection, client, member]

def FaultKind.ofName? (name : String) : Option FaultKind := all.find? fun k => k.name = name

/-- The part of the library that reports a failure. -/
inductive Area where
  | general
  | connectionString
  | configuration
  | resolution
  | blobStorage
  | messaging
deriving DecidableEq, Repr, Inhabited

def Area.name : Area → String
  | general => "FluentStorageError"
  | connectionString => "ConnectionStringError"
  | configuration => "ConfigurationError"
  | resolution => "ResolutionError"
  | blobStorage => "BlobStorageError"
  | messaging => "MessagingError"

/-- The name with the place where it belongs. -/
def Area.fullName (area : Area) : String := "fluentstorage.core.errors." ++ area.name

def Area.all : List Area :=
  [general, connectionString, configuration, resolution, blobStorage, messaging]

def Area.ofName? (name : String) : Option Area := all.find? fun a => a.name = name

inductive Code where
  | malformedSegment
  | unescapedDelimiter
  | missingParameter
  | invalidParameter
  | conflictingParameters
  | unrecognizedPrefix
  | blobNotFound
  | blobWriteFailed
  | blobReadFailed
  | blobDeleteFailed
  | blobConnectionFailed
  | offloadWriteFailed
  | offloadReadFailed
  | transportFailed
  | channelNotFound
  | internalError
  | dependencyUnavailable
deriving DecidableEq, Repr, Inhabited

namespace Code

def name : Code → String
  | malformedSegment => "CONNECTION_STRING_MALFORMED_SEGMENT"
  | unescapedDelimiter => "CONNECTION_STRING_UNESCAPED_DELIMITER"
  | missingParameter => "CONFIGURATION_MISSING_PARAMETER"
  | invalidParameter => "CONFIGURATION_INVALID_PARAMETER"
  | conflictingParameters => "CONFIGURATION_CONFLICTING_PARAMETERS"
  | unrecognizedPrefix => "RESOLUTION_UNRECOGNIZED_PREFIX"
  | blobNotFound => "BLOB_NOT_FOUND"
  | blobWriteFailed => "BLOB_WRITE_FAILED"
  | blobReadFailed => "BLOB_READ_FAILED"
  | blobDeleteFailed => "BLOB_DELETE_FAILED"
  | blobConnectionFailed => "BLOB_CONNECTION_FAILED"
  | offloadWriteFailed => "MESSAGING_OFFLOAD_WRITE_FAILED"
  | offloadReadFailed => "MESSAGING_OFFLOAD_READ_FAILED"
  | transportFailed => "MESSAGING_TRANSPORT_FAILED"
  | channelNotFound => "MESSAGING_CHANNEL_NOT_FOUND"
  | internalError => "INTERNAL_ERROR"
  | dependencyUnavailable => "INTERNAL_DEPENDENCY_UNAVAILABLE"

/-- Codes are grouped by area in the thousands. -/
def number : Code → Nat
  | malformedSegment => 1001
  | unescapedDelimiter => 1002
  | missingParameter => 2001
  | invalidParameter => 2002
  | conflictingParameters => 2003
  | unrecognizedPrefix => 3001
  | blobNotFound => 4001
  | blobWriteFailed => 4002
  | blobReadFailed => 4003
  | blobDeleteFailed => 4004
  | blobConnectionFailed => 4005
  | offloadWriteFailed => 5001
  | offloadReadFailed => 5002
  | transportFailed => 5003
  | channelNotFound => 5004
  | internalError => 9001
  | dependencyUnavailable => 9003

def all : List Code :=
  [malformedSegment, unescapedDelimiter, missingParameter, invalidParameter, conflictingParameters,
    unrecognizedPrefix, blobNotFound, blobWriteFailed, blobReadFailed, blobDeleteFailed,
    blobConnectionFailed, offloadWriteFailed, offloadReadFailed, transportFailed, channelNotFound,
    internalError, dependencyUnavailable]

def ofName? (name : String) : Option Code := all.find? fun c => c.name = name

end Code

/-- The identifier of a failure whose surroundings give it none. -/
def nilId : String := "00000000-0000-0000-0000-000000000000"

/-- A reported condition over causes of type `α`. -/
structure Report (α : Type) where
  area : Area
  code : Code
  message : String
  id : String := nilId
  time : Timestamp := ⟨0⟩
  cause : Option α := none
  context : Table String Value := .empty

inductive Fault where
  | raised (kind : FaultKind) (text : String)
  | reported (report : Report Fault)

abbrev Failure := Report Fault

instance {α : Type} : Inhabited (Report α) := ⟨⟨.general, .internalError, "", nilId, ⟨0⟩, none, .empty⟩⟩

instance : Inhabited Fault := ⟨.reported default⟩

/-- The message with its code and the start of the identifier. -/
def Report.sentence {α : Type} (r : Report α) : String :=
  "[" ++ r.code.name ++ "] " ++ r.message ++ " (id=" ++ String.ofList (r.id.toList.take 8) ++ ")"

/-- The text of a fault inside a sentence. -/
def Fault.plain : Fault → String
  | raised .key text => Text.quote text
  | raised _ text => text
  | reported report => report.sentence

def causeText (cause : Option Fault) : String :=
  (cause.map Fault.plain).getD "None"

/-- The form used in diagnostics. A failure of a particular area shows all its parts, causes inside it. -/
def Fault.quoted : Fault → String
  | raised .place text => FaultKind.place.name ++ "(" ++ text ++ ")"
  | raised kind text => kind.name ++ "(" ++ Text.quote text ++ ")"
  | reported ⟨.general, code, message, id, _, _, _⟩ =>
    Area.general.name ++ "(code=" ++ code.name ++ ", message=" ++ Text.quote message ++ ", error_id=" ++
      Text.quote id ++ ")"
  | reported ⟨area, code, message, id, time, cause, context⟩ =>
    area.name ++ "(code=<ErrorCode." ++ code.name ++ ": " ++ toString code.number ++ ">, message=" ++
      Text.quote message ++ ", error_id=" ++ Text.quote id ++ ", timestamp=" ++ time.render ++
      ", cause=" ++ (match cause with | none => "None" | some fault => fault.quoted) ++
      ", context=" ++ (Value.record context.entries).quoted ++ ")"

/-- A failure that another value carries. -/
def Value.ofFailure (f : Failure) : Value := .shown f.area.name f.sentence (Fault.reported f).quoted

def Value.ofTimestamp (t : Timestamp) : Value := .shown "Timestamp" t.render t.render

namespace Report

variable {α : Type}

/-- Adds fields to the context; a field given again takes the new value in its old place. -/
def withContext (fields : List (String × Value)) (r : Report α) : Report α :=
  { r with context := r.context.putAll fields }

/-- A failure as a record for structured logs, without its cause. -/
def summary (r : Report α) : List (String × Value) :=
  [("error_id", .text r.id), ("code", .text r.code.name), ("code_value", .int r.code.number),
    ("message", .text r.message), ("timestamp_nanos", .int r.time.nanos),
    ("context", .record r.context.entries)]

/-- A configuration failure stops dispatch unless its context says that it is not critical. -/
def isCritical (r : Report α) : Bool :=
  ((r.context.get? "critical").map Value.isTruthy).getD true

/-- The parameter or blob that the context names. -/
def key (r : Report α) : Value := (r.context.get? "key").getD .null

/-- The scheme that the context names. -/
def scheme (r : Report α) : Value := (r.context.get? "prefix").getD .null

end Report

namespace Failure

def malformedSegment (segment reason : String) : Failure where
  area := .connectionString
  code := .malformedSegment
  message := "Malformed connection string segment '" ++ segment ++ "': " ++ reason
  context := .ofList [("segment", .text segment), ("reason", .text reason)]

def unescapedDelimiter (segment : String) (position : Int) : Failure where
  area := .connectionString
  code := .unescapedDelimiter
  message := "Unfinished escape sequence at position " ++ toString position ++ " in segment '" ++
    segment ++ "'"
  context := .ofList [("segment", .text segment), ("position", .int position)]

def missingParameter (key : String) (critical : Bool) (scheme : Option String) : Failure where
  area := .configuration
  code := .missingParameter
  message := "connection string requires '" ++ key ++ "' parameter"
  context := .ofList [("key", .text key), ("critical", .bool critical), ("prefix", .ofText? scheme)]

def emptyParameter (key : String) (critical : Bool) : Failure where
  area := .configuration
  code := .missingParameter
  message := "parameter '" ++ key ++ "' is present but value is not set"
  context := .ofList [("key", .text key), ("critical", .bool critical), ("empty", .bool true)]

/-- At most a hundred characters of the value are kept. -/
def invalidParameter (key value reason : String) : Failure where
  area := .configuration
  code := .invalidParameter
  message := "parameter '" ++ key ++ "' is invalid: " ++ reason
  context := .ofList [("key", .text key), ("value", .text (String.ofList (value.toList.take 100))),
    ("reason", .text reason), ("critical", .bool true)]

def conflictingParameters (keys : List String) (reason : String) : Failure where
  area := .configuration
  code := .conflictingParameters
  message := "connection string parameters " ++ ", ".intercalate keys ++ ": " ++ reason
  context := .ofList [("keys", .list (keys.map .text)), ("reason", .text reason),
    ("critical", .bool true)]

def unrecognizedPrefix (scheme capability : String) (tried : Int) : Failure where
  area := .resolution
  code := .unrecognizedPrefix
  message := "could not create any " ++ capability ++ " implementation for prefix '" ++ scheme ++
    "' (" ++ toString tried ++ " modules registered), did you register the required module?"
  context := .ofList [("prefix", .text scheme), ("capability", .text capability),
    ("modules_tried", .int tried)]

def blobNotFound (key : String) : Failure where
  area := .blobStorage
  code := .blobNotFound
  message := "blob '" ++ key ++ "' not found"
  context := .ofList [("key", .text key)]

def writeFailed (key : String) (cause : Option Fault) : Failure where
  area := .blobStorage
  code := .blobWriteFailed
  message := "failed to write blob '" ++ key ++ "': " ++ causeText cause
  cause := cause
  context := .ofList [("key", .text key)]

def readFailed (key : String) (cause : Option Fault) : Failure where
  area := .blobStorage
  code := .blobReadFailed
  message := "failed to read blob '" ++ key ++ "': " ++ causeText cause
  cause := cause
  context := .ofList [("key", .text key)]

/-- The key comes from the service, which may name it by any value. -/
def deleteFailed (key : Value) (cause : Option Fault) : Failure where
  area := .blobStorage
  code := .blobDeleteFailed
  message := "failed to delete blob '" ++ key.plain ++ "': " ++ causeText cause
  cause := cause
  context := .ofList [("key", key)]

def connectionFailed (target : String) (cause : Option Fault) : Failure where
  area := .blobStorage
  code := .blobConnectionFailed
  message := "failed to connect to blob storage '" ++ target ++ "': " ++ causeText cause
  cause := cause
  context := .ofList [("target", .text target)]

/-- A client package that is not installed, missed by the given area. -/
def dependencyUnavailable (area : Area) (package : String) : Failure where
  area := area
  code := .dependencyUnavailable
  message := package ++ " package not installed: pip install " ++ package
  context := .ofList [("package", .text package)]

def offloadWriteFailed (key : String) (cause : Option Fault) : Failure where
  area := .messaging
  code := .offloadWriteFailed
  message := "failed to offload message content to blob '" ++ key ++ "'"
  cause := cause
  context := .ofList [("key", .text key)]

def offloadReadFailed (key : String) (cause : Option Fault) : Failure where
  area := .messaging
  code := .offloadReadFailed
  message := "failed to read offloaded message content from blob '" ++ key ++ "'"
  cause := cause
  context := .ofList [("key", .text key)]

def transportFailed (operation : String) (cause : Option Fault) (channel : Option String) : Failure where
  area := .messaging
  code := .transportFailed
  message := "transport operation '" ++ operation ++ "' failed: " ++ causeText cause
  cause := cause
  context := .ofList [("operation", .text operation), ("channel", .ofText? channel)]

def channelNotFound (channel : String) : Failure where
  area := .messaging
  code := .channelNotFound
  message := "channel '" ++ channel ++ "' not found"
  context := .ofList [("channel", .text channel)]

end Failure

/-- The outcome of an operation: a value, or the failure it reports. -/
abbrev Outcome (α : Type) := Except Failure α

/-- A call that returns, or that a fault interrupts. -/
abbrev Attempt (α : Type) := Except Fault α

end Depot
