import Depot.ConnectionString
import Depot.Settings.Environment

namespace Depot.Settings

structure Bucket where
  name : String
  region : Option String := none
  endpoint : Option String := none
  keyId : Option String := none
  secret : Option String := none
  sessionToken : Option String := none
  profile : Option String := none
  maxConcurrency : Int := 10
  connectTimeout : Int := 5
  readTimeout : Int := 60
  maxRetries : Int := 3
deriving DecidableEq, Repr

/-- A text that is absent counts as empty. -/
def isGiven (text : Option String) : Bool := !(text.getD "").isEmpty

/-- An empty text counts as absent. -/
def given? (text : Option String) : Option String := text.filter fun s => !s.isEmpty

namespace Bucket

def check (b : Bucket) : Attempt Unit := do
  if b.name.length < 3 then violation "bucket_name must be at least 3 characters"
  if isGiven b.keyId ≠ isGiven b.secret then
    violation "access_key_id and secret_access_key must be set together"
  if isGiven b.region && isGiven b.endpoint then
    violation "region and endpoint_url are mutually exclusive"
  if b.maxConcurrency ≤ 0 then
    violation ("max_concurrency must be > 0, got " ++ toString b.maxConcurrency)
  if b.connectTimeout ≤ 0 then violation "connect_timeout_seconds must be > 0"
  if b.readTimeout ≤ 0 then violation "read_timeout_seconds must be > 0"

def make (b : Bucket) : Attempt Bucket := do
  b.check
  return b

/-- A named text, if it is given. -/
def argument (name : String) (text : Option String) : List (String × Value) :=
  match given? text with
  | some s => [(name, .text s)]
  | none => []

/-- Arguments of a session; a key pair goes in whole or not at all. -/
def sessionArguments (b : Bucket) : List (String × Value) :=
  argument "profile_name" b.profile ++
    (if isGiven b.keyId && isGiven b.secret then
      argument "aws_access_key_id" b.keyId ++ argument "aws_secret_access_key" b.secret
    else []) ++
    argument "aws_session_token" b.sessionToken

/-- How a client connects. -/
def connectionArguments (b : Bucket) : List (String × Value) :=
  [("max_pool_connections", .int b.maxConcurrency), ("connect_timeout", .int b.connectTimeout),
    ("read_timeout", .int b.readTimeout), ("retries", .record [("max_attempts", .int b.maxRetries)])]

/-- Arguments of a client. -/
def clientArguments (b : Bucket) : List (String × Value) :=
  argument "region_name" b.region ++ argument "endpoint_url" b.endpoint

def view (b : Bucket) : List (String × Value) :=
  [("bucket_name", .text b.name), ("region", .ofText? b.region), ("endpoint_url", .ofText? b.endpoint),
    ("access_key_id", .ofText? b.keyId), ("secret_access_key", .ofText? b.secret),
    ("session_token", .ofText? b.sessionToken), ("profile_name", .ofText? b.profile),
    ("max_concurrency", .int b.maxConcurrency), ("connect_timeout_seconds", .int b.connectTimeout),
    ("read_timeout_seconds", .int b.readTimeout), ("max_retries", .int b.maxRetries)]

/-- How diagnostics show a store with these settings. -/
def storageText (b : Bucket) : String := "S3BlobStorage(bucket=" ++ Text.quote b.name ++ ")"

/-- Settings that break a rule are blamed on the bucket's name. -/
def blamed (b : Bucket) : Outcome Bucket :=
  match b.make with
  | .ok b => .ok b
  | .error fault => .error (.invalidParameter "bucket" b.name fault.plain)

/-- A bucket is always required. A profile brings its own keys and region. Without one, the two keys
come together or not at all, a region is required without them, and with them a service address may
stand in its place. -/
def ofConnectionString (cs : ConnectionString) : Outcome Bucket :=
  match cs.require "bucket" true true with
  | .error e => .error e
  | .ok name =>
    let profile := given? (cs.get? "profileName")
    let region := given? (cs.get? "region")
    let keyId := given? (cs.get? "keyId")
    let secret := given? (cs.get? "key")
    let sessionToken := given? (cs.get? "sessionToken")
    if profile.isSome then blamed { name, region, sessionToken, profile }
    else if keyId.isSome ≠ secret.isSome then
      .error (.conflictingParameters ["keyId", "key"] "both must be present, or neither")
    else if keyId.isNone && region.isNone then
      .error (.missingParameter "region" true (some cs.scheme))
    else if keyId.isSome then
      let endpoint := given? (cs.get? "serviceUrl")
      if region.isSome && endpoint.isSome then
        .error (.conflictingParameters ["region", "serviceUrl"]
          "either one may be set, but not both")
      else blamed { name, region, endpoint, keyId, secret, sessionToken }
    else blamed { name, region, keyId, secret, sessionToken }

end Bucket
end Depot.Settings
