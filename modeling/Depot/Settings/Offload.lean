import Depot.Settings.Environment

namespace Depot.Settings

structure Offload where
  /-- The longest content that is kept inside a message. -/
  maxInline : Int := 256 * 1024
  /-- The folder of the blobs. -/
  folder : String := "message"
  /-- Whether a blob goes when its message is confirmed or set aside. -/
  deleteOnConfirm : Bool := true
  /-- Whether blobs go when their messages could not be published. -/
  cleanUp : Bool := false
deriving DecidableEq, Repr

namespace Offload

/-- A folder name is more than slashes. -/
def hasFolder (o : Offload) : Bool := !o.folder.toList.all (· = '/')

def check (o : Offload) : Attempt Unit := do
  if o.maxInline ≤ 0 then violation ("max_inline_bytes must be > 0, got " ++ toString o.maxInline)
  if !o.hasFolder then violation "key_prefix must be a non-empty path segment"

def make (o : Offload) : Attempt Offload := do
  o.check
  return o

def ofEnvironment (env : Environment) (name : String) : Attempt Offload := do
  let maxInline ← env.readInt (name ++ "_MAX_INLINE_BYTES") (256 * 1024)
  make {
    maxInline
    folder := env.readText (name ++ "_KEY_PREFIX") "message"
    deleteOnConfirm := env.readBool (name ++ "_DELETE_ON_CONFIRM") true
    cleanUp := env.readBool (name ++ "_CLEANUP_ON_PUBLISH_FAILURE") false }

def view (o : Offload) : List (String × Value) :=
  [("max_inline_bytes", .int o.maxInline), ("key_prefix", .text o.folder),
    ("delete_on_confirm", .bool o.deleteOnConfirm), ("cleanup_on_publish_failure", .bool o.cleanUp)]

end Offload
end Depot.Settings
