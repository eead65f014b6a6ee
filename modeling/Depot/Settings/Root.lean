import Depot.Settings.Logging
import Depot.Settings.Offload

namespace Depot.Settings

structure Root where
  offload : Offload := {}
  logging : Logging := {}
deriving DecidableEq, Repr

namespace Root

def offloadVariables : String := "FLUENTSTORAGE_OFFLOAD"

def loggingVariables : String := "FLUENTSTORAGE_LOG"

def ofEnvironment (env : Environment) : Except String Root :=
  let read : Attempt Root := do
    let offload ← Offload.ofEnvironment env offloadVariables
    let logging ← Logging.ofEnvironment env loggingVariables
    return ⟨offload, logging⟩
  read.mapError fun fault => "Configuration error: " ++ fault.plain

/-- Rules across groups of settings. -/
def validate (r : Root) : Except String Unit :=
  if 64 * 1024 * 1024 < r.offload.maxInline then
    .error "offload max_inline_bytes above 64 MiB defeats offloading"
  else .ok ()

def view (r : Root) : List (String × Value) :=
  [("offload", .record r.offload.view), ("observability", .record r.logging.view)]

end Root
end Depot.Settings
