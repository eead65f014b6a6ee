import Depot.Dispatch.Resolve

namespace Depot.Dispatch

def memoryScheme : String := "inmemory"

def bucketScheme : String := "aws.s3"

def listScheme : String := "redis"

def memoryModule (serial : Nat) : Module where
  serial := serial
  name := "inmemory"
  kind := "InMemoryModule"
  schemes := [memoryScheme]
  capabilities := ⟨true, true, true⟩
  create capability cs :=
    if cs.scheme ≠ memoryScheme then .ok none
    else match capability with
      | .blobs => .ok (some .memoryBlobs)
      | .keyValue => .ok (some .memoryKeyValue)
      | .messenger => .ok (some .memoryMessenger)

def bucketModule (serial : Nat) : Module where
  serial := serial
  name := "aws"
  kind := "AwsStorageModule"
  schemes := [bucketScheme]
  capabilities := .only .blobs
  create capability cs :=
    if capability = .blobs ∧ cs.scheme = bucketScheme then
      (Settings.Bucket.ofConnectionString cs).map fun settings => some (.bucket settings)
    else .ok none

def listModule (serial : Nat) : Module where
  serial := serial
  name := "redis"
  kind := "RedisModule"
  schemes := [listScheme]
  capabilities := .only .messenger
  create capability cs :=
    if capability = .messenger ∧ cs.scheme = listScheme then
      (Settings.Server.ofConnectionString cs).map fun settings => some (.listMessenger settings)
    else .ok none

/-- The bundled modules by name. -/
def bundled? (name : String) (serial : Nat) : Option Module :=
  [memoryModule serial, bucketModule serial, listModule serial].find? fun m => m.name = name

/-- A registry of the three bundled modules. -/
def defaultRegistry : Registry := ⟨[memoryModule 0, bucketModule 1, listModule 2]⟩

end Depot.Dispatch
