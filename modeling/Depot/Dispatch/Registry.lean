import Depot.Dispatch.Module
import Depot.Log.Entry

namespace Depot.Dispatch

structure Registry where
  modules : List Module

namespace Registry

def empty : Registry := ⟨[]⟩

def size (r : Registry) : Nat := r.modules.length

def names (r : Registry) : List String := r.modules.map Module.name

def holds (r : Registry) (m : Module) : Bool := r.modules.any fun known => known.serial = m.serial

/-- Whether the module was added, and the registry with it. -/
def register (r : Registry) (m : Module) : Bool × Registry :=
  if r.holds m then (false, r) else (true, ⟨r.modules ++ [m]⟩)

/-- What a registration writes to the log. -/
def registrationEntry (m : Module) : Log.Entry where
  level := .debug
  source := "modules.registry"
  message := "Registered module " ++ m.name ++ " for prefixes " ++ Text.quoteList m.sortedSchemes ++
    " (" ++ m.capabilities.quoted ++ ")"

/-- The modules that declare all the wanted capabilities and the scheme. -/
def candidates (r : Registry) (wanted : Capabilities) (scheme : String) : List Module :=
  r.modules.filter fun m => m.handles wanted scheme

def quoted (r : Registry) : String := "StorageFactory(modules=" ++ Text.quoteList r.names ++ ")"

end Registry
end Depot.Dispatch
