import Depot.Fault
import Depot.Text.Case
import Depot.Text.Integer

namespace Depot.Settings

/-- The variables that are set. -/
abbrev Environment := Table String String

namespace Environment

/-- True and false in any letter case; any other text leaves the default. -/
def readBool (env : Environment) (name : String) (default : Bool) : Bool :=
  let text := Text.lower ((env.get? name).getD "")
  if ["true", "1", "yes"].contains text then true
  else if ["false", "0", "no"].contains text then false
  else default

/-- A variable that is unset or empty leaves the default. -/
def readInt (env : Environment) (name : String) (default : Int) : Attempt Int :=
  match env.get? name with
  | none => .ok default
  | some text =>
    if text.isEmpty then .ok default
    else (Text.readInteger text).mapError fun fault => .raised .value fault.message

def readText (env : Environment) (name default : String) : String :=
  (env.get? name).getD default

end Environment

/-- A violated rule of a group of settings. -/
def violation (rule : String) : Attempt Unit := .error (.raised .value rule)

end Depot.Settings
