import Depot.Proofs.Offload.Books
import Depot.Proofs.Offload.Pairing

namespace Depot.Offload

open Messenger (Memory)
open Messenger.Memory (blind unnamed Filed)

/-- What the two decorators of a channel are made with. Blobs are removed when messages are confirmed. -/
structure Site (τ : Type) where
  blobs : Blobs τ
  channel : String
  limit : Int
  cleanUp : Bool

inductive Request where
  | put (m : Message)
  | putAll (messages : List Message)
  | receive (limit : Int)
  | confirm (messages : List Message)
  | deadLetter (m : Message) (reason : String) (description : Option String)

structure Session (τ : Type) where
  scope : Scope (Memory × τ)
  delivered : List Message := []

variable {τ : Type}

namespace Session

def queues (s : Session τ) : Memory := s.scope.inner.1

def store (s : Session τ) : τ := s.scope.inner.2

end Session

/-- The messages that a call hands over, those that could not be restored left out. -/
def handedOver : Attempt (Outcome (List (Outcome Message))) → List Message
  | .ok (.ok outcomes) => outcomes.filterMap Except.toOption
  | _ => []

namespace Site

def sender (site : Site τ) : Sender (Memory × τ) :=
  senderOn Messenger.memory site.blobs site.channel site.limit site.cleanUp

def restorer (site : Site τ) : Restorer (Memory × τ) :=
  restorerOn Messenger.memory site.blobs site.channel true

def serve (site : Site τ) (s : Session τ) : Request → Session τ
  | .put m => { s with scope := (site.sender.put m s.scope).2 }
  | .putAll messages => { s with scope := (site.sender.putAll messages s.scope).2 }
  | .receive limit =>
    { scope := (site.restorer.receive limit s.scope).2
      delivered := s.delivered ++ handedOver (site.restorer.receive limit s.scope).1 }
  | .confirm messages => { s with scope := (site.restorer.confirm messages s.scope).2 }
  | .deadLetter m reason description =>
    { s with scope := (site.restorer.deadLetter m reason description s.scope).2 }

end Site

/-- A message that no messenger has seen. -/
def New (m : Message) : Prop := m.id = none ∧ m.origin = none

/-- New messages are published, and only delivered messages are confirmed or set aside. -/
def Request.Admissible (s : Session τ) : Request → Prop
  | .put m => New m
  | .putAll messages => ∀ m ∈ messages, New m
  | .receive _ => True
  | .confirm messages => ∀ m ∈ messages, m ∈ s.delivered
  | .deadLetter m _ _ => m ∈ s.delivered

/-- The sessions that a session can become. -/
inductive Site.Reaches (site : Site τ) (start : Session τ) : Session τ → Prop
  | start : site.Reaches start start
  | serve {s : Session τ} {request : Request} (before : site.Reaches start s)
      (admissible : request.Admissible s) : site.Reaches start (site.serve s request)

/-- A channel without messages, in a messenger none of whose messages names a blob. -/
structure Site.Opening (site : Site τ) (s : Session τ) : Prop where
  empty : s.queues.holding site.channel = []
  bare : ∀ channel, ∀ m ∈ s.queues.holding channel, blobKey? m = none
  filed : s.queues.Filed
  delivered : s.delivered = []

end Depot.Offload
