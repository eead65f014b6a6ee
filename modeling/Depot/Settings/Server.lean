import Depot.ConnectionString
import Depot.Decimal.Shortest
import Depot.Settings.Bucket

namespace Depot.Settings

structure Server where
  host : String := "localhost"
  port : Int := 6379
  password : Option String := none
  db : Int := 0
  ssl : Bool := false
  /-- The name in front of every key that the messenger uses. -/
  namespaceName : String := "fluentstorage"
  maxConnections : Int := 50
  connectTimeout : Int := 2000
  socketTimeout : Int := 5000
deriving DecidableEq, Repr

namespace Server

def portInRange (port : Int) : Bool := 1 ≤ port && port ≤ 65535

def dbInRange (db : Int) : Bool := 0 ≤ db && db ≤ 15

def portRule (port : Int) : String := "port must be in [1, 65535], got " ++ toString port

def dbRule (db : Int) : String := "db must be in [0, 15], got " ++ toString db

def check (s : Server) : Attempt Unit := do
  if !portInRange s.port then violation (portRule s.port)
  if !dbInRange s.db then violation (dbRule s.db)
  if s.maxConnections ≤ 0 then
    violation ("max_connections must be > 0, got " ++ toString s.maxConnections)
  if s.connectTimeout ≤ 0 then
    violation ("connect_timeout_ms must be > 0, got " ++ toString s.connectTimeout)
  if s.socketTimeout ≤ 0 then
    violation ("socket_timeout_ms must be > 0, got " ++ toString s.socketTimeout)
  if s.namespaceName.isEmpty then violation "channel_prefix must be non-empty"

def make (s : Server) : Attempt Server := do
  s.check
  return s

/-- Milliseconds as the text of a double of seconds. -/
def secondsText (millis : Int) : Attempt String :=
  match (Decimal.nearest? millis.natAbs 1).bind fun x => x.divide? 1000 with
  | some seconds => .ok ((if millis < 0 then "-" else "") ++ seconds.render)
  | none => .error (.raised .overflow "int too large to convert to float")

/-- A number of seconds, known by its text. -/
def secondsValue (s : String) : Value := .shown "float" s s

/-- Arguments of a client. -/
def clientArguments (s : Server) : Attempt (List (String × Value)) := do
  let connect ← secondsText s.connectTimeout
  let socket ← secondsText s.socketTimeout
  return [("host", .text s.host), ("port", .int s.port), ("db", .int s.db),
    ("max_connections", .int s.maxConnections), ("socket_connect_timeout", secondsValue connect),
    ("socket_timeout", secondsValue socket), ("decode_responses", .bool false), ("ssl", .bool s.ssl)] ++
    Bucket.argument "password" s.password

/-- How diagnostics show a messenger with these settings. -/
def messengerText (s : Server) : String :=
  "RedisMessenger(host=" ++ Text.quote s.host ++ ", port=" ++ toString s.port ++ ", prefix=" ++
    Text.quote s.namespaceName ++ ")"

def view (s : Server) : List (String × Value) :=
  [("host", .text s.host), ("port", .int s.port), ("password", .ofText? s.password), ("db", .int s.db),
    ("ssl", .bool s.ssl), ("channel_prefix", .text s.namespaceName),
    ("max_connections", .int s.maxConnections), ("connect_timeout_ms", .int s.connectTimeout),
    ("socket_timeout_ms", .int s.socketTimeout)]

/-- An integer parameter, if it is given; an empty text counts as absent. -/
def integerParameter (cs : ConnectionString) (key : String) : Outcome (Option Int) :=
  match given? (cs.get? key) with
  | none => .ok none
  | some text =>
    match Text.readInteger text with
    | .ok n => .ok (some n)
    | .error _ => .error (.invalidParameter key text "must be an integer")

/-- A switch that is present without a value is on. -/
def sslParameter (cs : ConnectionString) : Outcome Bool :=
  match cs.get? "ssl" with
  | none => .ok false
  | some text =>
    let folded := Text.lower text
    if ["", "true", "1", "yes"].contains folded then .ok true
    else if ["false", "0", "no"].contains folded then .ok false
    else .error (.invalidParameter "ssl" text "must be true or false")

/-- Whether a word stands anywhere in a text. -/
def occurs (word : List Char) : List Char → Bool
  | [] => word.isEmpty
  | c :: rest => word.isPrefixOf (c :: rest) || occurs word rest

/-- The number that the message of a broken rule is about. -/
def blamedKey (message : String) : String := if occurs "db".toList message.toList then "db" else "port"

/-- Settings that break a rule are blamed on a number as it was given. -/
def blamed (port db : Option Int) (s : Server) : Outcome Server :=
  match s.make with
  | .ok s => .ok s
  | .error fault =>
    let key := blamedKey fault.plain
    let number := if key = "db" then db else port
    .error (.invalidParameter key ((number.map toString).getD "") fault.plain)

/-- All parameters are optional. Numbers are read before the switch, and ranges come last. -/
def ofConnectionString (cs : ConnectionString) : Outcome Server := do
  let port ← integerParameter cs "port"
  let db ← integerParameter cs "db"
  let ssl ← sslParameter cs
  blamed port db {
    host := (given? (cs.get? "host")).getD "localhost"
    port := port.getD 6379
    password := given? (cs.get? "password")
    db := db.getD 0
    ssl
    namespaceName := (given? (cs.get? "channelPrefix")).getD "fluentstorage" }

end Server
end Depot.Settings
