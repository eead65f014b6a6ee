import Depot.Action
import Depot.Message
import Depot.Supply

namespace Depot

structure Messenger (σ : Type) where
  createChannels : List String → Action σ (Outcome Unit)
  /-- In ascending order. -/
  channels : Action σ (Outcome (List String))
  deleteChannels : List String → Action σ (Outcome Unit)
  /-- How many messages of a channel wait to be received. -/
  count : String → Action σ (Outcome Nat)
  /-- Sending to an unknown channel creates it. A message without an identifier is given one. -/
  send : String → List Message → Action σ (Outcome Unit)
  /-- Takes at most so many messages, the oldest first. -/
  receive : String → Int → Action σ (Outcome (List Message))
  /-- What would be received, left in place and as it is. -/
  peek : String → Int → Action σ (Outcome (List Message))
  /-- Removes messages by identifier, waiting or in flight. -/
  delete : String → List String → Action σ (Outcome Unit)
  close : Action σ Unit

structure Publisher (σ : Type) where
  put : Message → Action σ (Outcome Unit)
  putAll : List Message → Action σ (Outcome Unit)
  quoted : String

structure Receiver (σ : Type) where
  receive : Int → Action σ (Outcome (List Message))
  confirm : List Message → Action σ (Outcome Unit)
  /-- Sets a message aside for a reason, with a description of the error if there is one. -/
  deadLetter : Message → String → Option String → Action σ (Outcome Unit)
  count : Action σ (Outcome Nat)
  quoted : String

namespace Messenger

variable {σ : Type}

/-- How many messages a call asks for that does not say. -/
def defaultCount : Int := 100

/-- Where the messages of a channel are set aside. -/
def deadLettersOf (channel : String) : String := channel ++ ".deadletter"

def reasonHeader : String := "x-dead-letter-reason"

def errorHeader : String := "x-dead-letter-error"

/-- A message with the reason why it is set aside. -/
def marked (m : Message) (reason : String) (description : Option String) : Message :=
  let m := m.withProperty reasonHeader reason
  match description with
  | none => m
  | some text => m.withProperty errorHeader text

def publisher (m : Messenger σ) (channel : String) : Publisher σ where
  put message := m.send channel [message]
  putAll messages := m.send channel messages
  quoted := "ChannelPublisher(channel=" ++ Text.quote channel ++ ")"

/-- A message set aside is first sent to its new channel and then deleted from the old one. -/
def receiver (m : Messenger σ) (channel : String) : Receiver σ where
  receive := m.receive channel
  confirm messages := m.delete channel (messages.filterMap Message.id)
  deadLetter message reason description :=
    (m.send (deadLettersOf channel) [marked message reason description]).onSuccess fun _ =>
      match message.id with
      | none => pure (.ok ())
      | some id => m.delete channel [id]
  count := m.count channel
  quoted := "ChannelReceiver(channel=" ++ Text.quote channel ++ ")"

/-- A messenger on a part of a larger state. -/
def zoom {τ : Type} (part : τ → σ) (put : σ → τ → τ) (m : Messenger σ) : Messenger τ where
  createChannels names := (m.createChannels names).zoom part put
  channels := m.channels.zoom part put
  deleteChannels names := (m.deleteChannels names).zoom part put
  count channel := (m.count channel).zoom part put
  send channel messages := (m.send channel messages).zoom part put
  receive channel limit := (m.receive channel limit).zoom part put
  peek channel limit := (m.peek channel limit).zoom part put
  delete channel ids := (m.delete channel ids).zoom part put
  close := m.close.zoom part put

variable {τ : Type} [Textual τ]

/-- A message with its identifier, or with the next of the supply. -/
def stamp (ids : Supply) (m : Message τ) : Message τ × Supply :=
  match m.id with
  | some _ => (m, ids)
  | none => (m.withId (some (Textual.ofString ids.next)), ids.advance)

def stampAll (ids : Supply) : List (Message τ) → List (Message τ) × Supply
  | [] => ([], ids)
  | m :: rest =>
    let (m, ids) := stamp ids m
    let (rest, ids) := stampAll ids rest
    (m :: rest, ids)

end Messenger
end Depot
