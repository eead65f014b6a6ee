import Depot.Dispatch.Registry

namespace Depot.Dispatch

/-- What a resolution answers, the serials of the modules it asked, and what it logs. -/
structure Resolution where
  answer : Outcome Backend
  asked : List Nat
  log : List Log.Entry

/-- A failure that lets the next module try. -/
def passes (e : Failure) : Bool := e.area = .configuration && !e.isCritical

def entry (m : Module) (said : String) : Log.Entry :=
  ⟨.debug, "modules.factory", m.name ++ " " ++ said, []⟩

/-- Asks the candidates in turn; `nobody` is the answer if none decides. -/
def walk (nobody : Failure) (capability : Capability) (cs : ConnectionString) : List Module → Resolution
  | [] => ⟨.error nobody, [], []⟩
  | m :: rest =>
    match m.create capability cs with
    | .ok (some backend) =>
      ⟨.ok backend, [m.serial],
        [entry m ("created " ++ capability.label ++ " for " ++ cs.redacted)]⟩
    | .ok none =>
      let later := walk nobody capability cs rest
      ⟨later.answer, m.serial :: later.asked, later.log⟩
    | .error e =>
      if passes e then
        let later := walk nobody capability cs rest
        ⟨later.answer, m.serial :: later.asked,
          entry m ("passed on " ++ cs.redacted ++ ": " ++ e.message) :: later.log⟩
      else
        ⟨.error e, [m.serial], [entry m ("rejected " ++ cs.redacted ++ ": " ++ e.message)]⟩

def Registry.resolve (r : Registry) (capability : Capability) (cs : ConnectionString) : Resolution :=
  walk (.unrecognizedPrefix cs.scheme capability.label r.size) capability cs
    (r.candidates (.only capability) cs.scheme)

/-- A text that cannot be parsed reaches no module. -/
def Registry.resolveText (r : Registry) (capability : Capability) (text : String) : Resolution :=
  match ConnectionString.parse text with
  | .ok cs => r.resolve capability cs
  | .error e => ⟨.error e, [], []⟩

end Depot.Dispatch
