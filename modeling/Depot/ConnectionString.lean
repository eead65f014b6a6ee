import Depot.Connection.Parts
import Depot.Text.Case

namespace Depot

/-- A parameter under its folded key: the key as first written, and the value. -/
structure Parameter where
  key : String
  value : String
deriving DecidableEq, Repr

structure ConnectionString where
  scheme : String
  native : Option String
  folded : Table String Parameter
  /-- The text it was read from, or its own. -/
  text : String

namespace ConnectionString

open Connection

/-- Adds a parameter, in the place and spelling of an earlier one with the same folded key. -/
def addParameter (table : Table String Parameter) (pair : String × String) : Table String Parameter :=
  let fold := Text.lower pair.1
  match table.get? fold with
  | some earlier => table.put fold ⟨earlier.key, pair.2⟩
  | none => table.put fold ⟨pair.1, pair.2⟩

def foldPairs (pairs : List (String × String)) : Table String Parameter :=
  pairs.foldl addParameter .empty

def spelledPairs (table : Table String Parameter) : List (String × String) :=
  table.values.map fun p => (p.key, p.value)

/-- A connection string of any parts; without a text of its own it takes the one it is written as. -/
def ofParts (scheme : String) (pairs : List (String × String)) (native text : Option String) :
    ConnectionString :=
  let folded := foldPairs pairs
  ⟨scheme, native, folded, text.getD (write scheme (spelledPairs folded) native)⟩

/-- Parameters in order, as first spelled. -/
def parameters (cs : ConnectionString) : List (String × String) := spelledPairs cs.folded

def keys (cs : ConnectionString) : List String := cs.parameters.map Prod.fst

def size (cs : ConnectionString) : Nat := cs.folded.size

def isNative (cs : ConnectionString) : Bool := cs.native.isSome

def parse (text : String) : Outcome ConnectionString :=
  (Parts.read text).map fun parts => ofParts parts.scheme parts.pairs parts.native (some text)

/-- Why a key cannot be given by a builder. -/
def checkKey (key : String) : Attempt Unit :=
  if !isKey key then .error (.raised .value ("invalid connection string key " ++ Text.quote key))
  else if Text.lower key = nativeKey then
    .error (.raised .value "use native_for to wrap a vendor-native string")
  else .ok ()

def checkScheme (scheme : String) : Attempt Unit :=
  if scheme.isEmpty then .error (.raised .value "prefix must be non-empty") else .ok ()

def build (scheme : String) (parameters : Table String String) : Attempt ConnectionString := do
  checkScheme scheme
  parameters.keys.forM checkKey
  return ofParts scheme parameters.entries none none

/-- Wraps a string in a service's own form. -/
def ofNative (scheme native : String) : Attempt ConnectionString := do
  checkScheme scheme
  return ofParts scheme [(nativeKey, native)] (some native) none

/-- Sets one parameter, in any letter case of its key. -/
def withParameter (key value : String) (cs : ConnectionString) : Attempt ConnectionString := do
  if cs.isNative then throw (.raised .value "native connection strings do not take parameters")
  checkKey key
  return ofParts cs.scheme (cs.parameters ++ [(key, value)]) none none

def get? (cs : ConnectionString) (key : String) : Option String :=
  (cs.folded.get? (Text.lower key)).map Parameter.value

def contains (cs : ConnectionString) (key : String) : Bool :=
  cs.folded.contains (Text.lower key)

/-- The value of a key that must be there. -/
def item (cs : ConnectionString) (key : String) : Attempt String :=
  match cs.get? key with
  | some value => .ok value
  | none => .error (.raised .key key)

/-- A parameter that must be there, and not empty if so demanded. -/
def require (cs : ConnectionString) (key : String) (critical nonEmpty : Bool) : Outcome String :=
  match cs.get? key with
  | none => .error (.missingParameter key critical (some cs.scheme))
  | some value =>
    if nonEmpty && value.isEmpty then .error (.emptyParameter key critical) else .ok value

/-- The written form; it may differ from the text that was read. -/
def render (cs : ConnectionString) : String := write cs.scheme cs.parameters cs.native

/-- Folded keys whose values are never shown. -/
def secretKeys : List String := ["key", "password", "sessiontoken", "cred", "native"]

def mask : String := "***"

def maskPair (pair : String × String) : String × String :=
  (pair.1, if secretKeys.contains (Text.lower pair.1) then mask else pair.2)

/-- The written form with secret values masked. -/
def redacted (cs : ConnectionString) : String :=
  if cs.isNative then write cs.scheme [] (some mask)
  else write cs.scheme (cs.parameters.map maskPair) none

/-- The form used in diagnostics. -/
def quoted (cs : ConnectionString) : String :=
  "StorageConnectionString(" ++ Text.quote cs.redacted ++ ")"

def foldedValues (cs : ConnectionString) : Table String String := cs.folded.map Parameter.value

/-- Equal strings have the same scheme, the same native text and the same values under folded keys, in
whatever order and spelling. -/
def equals (a b : ConnectionString) : Bool :=
  a.scheme = b.scheme && a.native = b.native && a.foldedValues.agrees b.foldedValues

/-- Reading the written form gives an equal connection string. -/
def readsBack (cs : ConnectionString) : Bool :=
  match parse cs.render with
  | .ok again => again.equals cs
  | .error _ => false

end ConnectionString
end Depot
