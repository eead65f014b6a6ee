import Depot.Fault

namespace Depot

def Action (σ α : Type) : Type := σ → Attempt α × σ

namespace Action

variable {σ τ α β : Type}

instance : Monad (Action σ) where
  pure a := fun s => (.ok a, s)
  bind act next := fun s =>
    match act s with
    | (.ok a, s) => next a s
    | (.error fault, s) => (.error fault, s)

def raise (fault : Fault) : Action σ α := fun s => (.error fault, s)

def ofAttempt (result : Attempt α) : Action σ α := fun s => (result, s)

def state : Action σ σ := fun s => (.ok s, s)

def update (change : σ → σ) : Action σ Unit := fun s => (.ok (), change s)

/-- A change that also answers. -/
def change (f : σ → α × σ) : Action σ α := fun s => (.ok (f s).1, (f s).2)

/-- What to do after a fault instead. -/
def recover (act : Action σ α) (handler : Fault → Action σ α) : Action σ α := fun s =>
  match act s with
  | (.ok a, s) => (.ok a, s)
  | (.error fault, s) => handler fault s

/-- Goes on after a success only. -/
def onSuccess (act : Action σ (Outcome α)) (next : α → Action σ (Outcome β)) : Action σ (Outcome β) := do
  match ← act with
  | .ok a => next a
  | .error e => return .error e

/-- A fault becomes a failure of the call. -/
def reporting (report : Fault → Failure) (act : Action σ (Outcome α)) : Action σ (Outcome α) :=
  act.recover fun fault => pure (.error (report fault))

/-- Runs all calls in order, whatever becomes of each. -/
def runAll : List (Action σ α) → σ → List (Attempt α) × σ
  | [], s => ([], s)
  | act :: rest, s =>
    let (result, s) := act s
    let (results, s) := runAll rest s
    (result :: results, s)

/-- Runs all calls in order; then the first fault counts, if there is one. -/
def gather (acts : List (Action σ α)) : Action σ (List α) := fun s =>
  let (results, s) := runAll acts s
  (results.mapM id, s)

/-- A call on a part of a larger state. -/
def zoom (part : τ → σ) (put : σ → τ → τ) (act : Action σ α) : Action τ α := fun t =>
  ((act (part t)).1, put (act (part t)).2 t)

end Action
end Depot
