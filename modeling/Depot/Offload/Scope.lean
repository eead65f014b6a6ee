import Depot.Action
import Depot.Log.Entry
import Depot.Supply

namespace Depot.Offload

structure Scope (σ : Type) where
  inner : σ
  keys : Supply
  log : List Log.Entry := []

namespace Scope

variable {σ α : Type}

def within (act : Action σ α) : Action (Scope σ) α :=
  act.zoom Scope.inner fun inner s => { s with inner }

def write (level : Log.Level) (message : String) (fields : List (String × Value)) :
    Action (Scope σ) Unit :=
  .update fun s => { s with log := s.log ++ [⟨level, "messaging.large", message, fields⟩] }

def drawKey : Action (Scope σ) String :=
  .change fun s => (s.keys.next, { s with keys := s.keys.advance })

end Scope

/-- Log fields that several entries share. -/
def keyField (key : String) : String × Value := ("blob_key", .text key)

def keysField (keys : List String) : String × Value := ("blob_keys", .list (keys.map .text))

def sizeField (n : Nat) : String × Value := ("size", .int n)

def errorField (e : Failure) : String × Value := ("error", .text e.sentence)

end Depot.Offload
