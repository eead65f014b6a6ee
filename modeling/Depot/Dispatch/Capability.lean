import Depot.Text.Case

namespace Depot.Dispatch

inductive Capability where
  | blobs
  | keyValue
  | messenger
deriving DecidableEq, Repr

structure Capabilities where
  blobs : Bool
  keyValue : Bool
  messenger : Bool
deriving DecidableEq, Repr

namespace Capabilities

def none : Capabilities := ⟨false, false, false⟩

def only : Capability → Capabilities
  | .blobs => ⟨true, false, false⟩
  | .keyValue => ⟨false, true, false⟩
  | .messenger => ⟨false, false, true⟩

def union (a b : Capabilities) : Capabilities :=
  ⟨a.blobs || b.blobs, a.keyValue || b.keyValue, a.messenger || b.messenger⟩

def ofList (kinds : List Capability) : Capabilities :=
  kinds.foldl (fun set kind => set.union (only kind)) none

/-- Every kind in the second set is in the first. -/
def includes (a b : Capabilities) : Bool :=
  (a.blobs || !b.blobs) && (a.keyValue || !b.keyValue) && (a.messenger || !b.messenger)

def names (c : Capabilities) : List String :=
  (if c.blobs then ["BLOB_STORAGE"] else []) ++ (if c.keyValue then ["KEY_VALUE_STORAGE"] else []) ++
    (if c.messenger then ["MESSENGER"] else [])

def joinedNames (c : Capabilities) : String :=
  if c.names.isEmpty then "NONE" else "|".intercalate c.names

/-- The form used in diagnostics. -/
def quoted (c : Capabilities) : String := "ModuleCapability." ++ c.joinedNames

/-- The form used in sentences. -/
def label (c : Capabilities) : String :=
  String.ofList ((Text.lower c.joinedNames).toList.map fun ch => if ch = '_' then ' ' else ch)

/-- The last three bits of a number, the lowest first. -/
def ofBits (bits : Int) : Capabilities :=
  ⟨bits.fmod 2 = 1, (bits.fdiv 2).fmod 2 = 1, (bits.fdiv 4).fmod 2 = 1⟩

end Capabilities

def Capability.label (c : Capability) : String := (Capabilities.only c).label

end Depot.Dispatch
