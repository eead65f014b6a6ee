import Depot.Fault
import Depot.Text.Utf8

namespace Depot

inductive Content where
  | bytes (data : Bytes)
  | text (s : String)

def Content.data : Content → Attempt Bytes
  | bytes data => .ok data
  | text _ => .error (.raised .type "string argument without an encoding")

end Depot
