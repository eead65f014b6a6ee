import Depot.Settings.Environment

namespace Depot.Settings

structure Logging where
  level : String := "INFO"
  json : Bool := true
deriving DecidableEq, Repr

namespace Logging

/-- Levels are named in any letter case. -/
def levelNames : List String := ["DEBUG", "INFO", "WARNING", "ERROR"]

def make (l : Logging) : Attempt Logging := do
  if !levelNames.contains (Text.upper l.level) then violation ("unknown log_level " ++ Text.quote l.level)
  return l

def ofEnvironment (env : Environment) (name : String) : Attempt Logging :=
  make {
    level := Text.upper (env.readText (name ++ "_LEVEL") "INFO")
    json := env.readBool (name ++ "_JSON") true }

def view (l : Logging) : List (String × Value) :=
  [("log_level", .text l.level), ("log_json", .bool l.json)]

end Logging
end Depot.Settings
