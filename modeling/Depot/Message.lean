import Depot.Content
import Depot.Fields
import Depot.Text.Textual

namespace Depot

/-- A message, with texts of the given kind. -/
structure Message (τ : Type := String) where
  content : Bytes := []
  /-- Given by a messenger when the message is sent. -/
  id : Option τ := none
  properties : Table τ τ := .empty
  /-- How often the message has been received. -/
  received : Nat := 0
  /-- The blob that the content was fetched from. -/
  origin : Option String := none
deriving DecidableEq

namespace Message

variable {τ : Type}

def bytesOf : Content → Attempt Bytes
  | .bytes data => .ok data
  | .text _ => .error (.raised .type "content must be bytes, use QueueMessage.from_text for text")

def countOf (n : Int) : Attempt Nat :=
  if n < 0 then .error (.raised .value ("dequeue_count must be >= 0, got " ++ toString n)) else .ok n.toNat

def make (content : Content) (id : Option String) (properties : List (String × String)) (received : Int)
    (origin : Option String) : Attempt Message := do
  let content ← bytesOf content
  let received ← countOf received
  return { content, id, properties := .ofList properties, received, origin }

def ofText (text : String) (id : Option String) (properties : List (String × String)) : Message :=
  { content := Utf8.encode text, id, properties := .ofList properties }

def text (m : Message) : Attempt String :=
  (Utf8.decode m.content).mapError (.raised .decoding)

def withContent (content : Content) (m : Message τ) : Attempt (Message τ) := do
  return { m with content := ← bytesOf content }

def withId (id : Option τ) (m : Message τ) : Message τ := { m with id }

def withReceived (n : Int) (m : Message τ) : Attempt (Message τ) := do
  return { m with received := ← countOf n }

/-- The message after one more receipt. -/
def receive (m : Message τ) : Message τ := { m with received := m.received + 1 }

def withProperty (key value : String) (m : Message) : Message :=
  { m with properties := m.properties.put key value }

/-- No property given by name can be called as the receiver of the call is. -/
def withProperties (updates : List (String × String)) (m : Message) : Attempt Message := do
  return { m with properties := m.properties.merge (← Fields.bind ["self"] updates) }

def withoutProperties (keys : List String) (m : Message) : Message :=
  { m with properties := m.properties.eraseAll keys }

/-- Equality disregards where the content came from and the order of the properties. -/
def agrees (a b : Message) : Bool :=
  a.content = b.content && a.id = b.id && a.properties.agrees b.properties && a.received = b.received

def quoted (m : Message) : String :=
  "QueueMessage(id=" ++ (m.id.map Text.quote).getD "None" ++ ", content=<" ++
    toString m.content.length ++ " bytes>, properties=" ++
    (Value.record (m.properties.map Value.text).entries).quoted ++ ", dequeue_count=" ++
    toString m.received ++ ")"

end Message
end Depot
