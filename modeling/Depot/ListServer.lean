import Depot.ListClient

namespace Depot

/-- A server whose clients can always be opened, and which carries out whatever it need not refuse. -/
structure ListServer where
  data : ListClient.Data := fun _ => none

namespace ListServer

open ListClient (Request)

/-- What the server says of a collection of another kind. -/
def wrongKind : Fault := .raised .client "WRONGTYPE Operation against a key holding the wrong kind of value"

/-- What is said of a field without a name, before anything is sent. -/
def nameless : Fault :=
  .raised .client "Invalid input of type: 'NoneType'. Convert to a bytes, string, int or float first."

def refusal : Request → Fault
  | .setFields _ fields => if fields.any fun f => f.1.isNone then nameless else wrongKind
  | _ => wrongKind

def ask (r : Request) : Action ListServer r.Answer := fun s =>
  match r.run s.data with
  | some (answer, data) => (.ok answer, { s with data })
  | none => (.error (refusal r), s)

instance : ListClient ListServer where
  isInstalled _ := true
  openClient _ := pure ()
  ping := pure ()
  closeClient := pure ()
  request := ask

end ListServer
end Depot
