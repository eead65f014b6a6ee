import Depot.Action
import Depot.Content
import Depot.Store

namespace Depot

structure Blobs (σ : Type) where
  write : String → Content → Action σ (Outcome Unit)
  read : String → Action σ (Outcome Bytes)
  contains : String → Action σ (Outcome Bool)
  delete : List String → Action σ (Outcome Unit)
  /-- The keys that begin with a text, in ascending order. -/
  list : Option String → Action σ (Outcome (List String))
  close : Action σ Unit

namespace Blobs

def readFrom (s : Store) (key : String) : Outcome Bytes :=
  match s.read? key with
  | some data => .ok data
  | none => .error (.blobNotFound key)

def memory : Blobs Store where
  write key content := do
    let data ← .ofAttempt content.data
    .update (Store.write key data)
    return .ok ()
  read key := .change fun s => (readFrom s key, s)
  contains key := .change fun s => (.ok (s.contains key), s)
  delete keys := .change fun s => (.ok (), s.delete keys)
  list start := .change fun s => (.ok (s.list (start.getD "")), s)
  close := pure ()

/-- A store of blobs in a part of a larger state. -/
def zoom {σ τ : Type} (part : τ → σ) (put : σ → τ → τ) (b : Blobs σ) : Blobs τ where
  write key content := (b.write key content).zoom part put
  read key := (b.read key).zoom part put
  contains key := (b.contains key).zoom part put
  delete keys := (b.delete keys).zoom part put
  list start := (b.list start).zoom part put
  close := b.close.zoom part put

end Blobs
end Depot
