import Depot.Dispatch.Capability
import Depot.Settings.Server

namespace Depot.Dispatch

/-- What a connection string resolves to: a fresh backend that has not been used. -/
inductive Backend where
  | memoryBlobs
  | memoryKeyValue
  | memoryMessenger
  | bucket (settings : Settings.Bucket)
  | listMessenger (settings : Settings.Server)
deriving DecidableEq, Repr

structure Module where
  /-- Tells apart two modules that look alike. -/
  serial : Nat
  name : String
  /-- The word for this kind of module in diagnostics. -/
  kind : String
  schemes : List String
  capabilities : Capabilities
  create : Capability → ConnectionString → Outcome (Option Backend)

namespace Module

/-- The declared schemes in order, each once. -/
def sortedSchemes (m : Module) : List String := (m.schemes.mergeSort fun a b => a ≤ b).eraseReps

def quoted (m : Module) : String :=
  m.kind ++ "(prefixes=" ++ Text.quoteList m.sortedSchemes ++ ")"

def handles (m : Module) (wanted : Capabilities) (scheme : String) : Bool :=
  m.capabilities.includes wanted && m.schemes.contains scheme

end Module
end Depot.Dispatch
