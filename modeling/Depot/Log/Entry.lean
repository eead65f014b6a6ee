import Depot.Value

namespace Depot.Log

inductive Level where
  | debug
  | info
  | warning
  | error
deriving DecidableEq, Repr

def Level.name : Level → String
  | debug => "DEBUG"
  | info => "INFO"
  | warning => "WARNING"
  | error => "ERROR"

def Level.number : Level → Nat
  | debug => 10
  | info => 20
  | warning => 30
  | error => 40

def Level.all : List Level := [debug, info, warning, error]

def Level.ofName? (name : String) : Option Level := all.find? fun l => l.name = name

structure Entry where
  level : Level
  /-- The part of the library that writes. -/
  source : String
  message : String
  fields : List (String × Value) := []

end Depot.Log
