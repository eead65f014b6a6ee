import Depot.Action
import Depot.Content
import Depot.Store

namespace Depot

structure KeyValue (σ : Type) where
  put : String → Content → Action σ (Outcome Unit)
  get : String → Action σ (Outcome (Option Bytes))
  delete : List String → Action σ (Outcome Unit)
  /-- The keys that begin with a text, in ascending order. -/
  list : Option String → Action σ (Outcome (List String))

namespace KeyValue

def memory : KeyValue Store where
  put key content := do
    let data ← .ofAttempt content.data
    .update (Store.write key data)
    return .ok ()
  get key := .change fun s => (.ok (s.read? key), s)
  delete keys := .change fun s => (.ok (), s.delete keys)
  list start := .change fun s => (.ok (s.list (start.getD "")), s)

end KeyValue
end Depot
