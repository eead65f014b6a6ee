import Depot.Offload.Restorer
import Depot.Offload.Sender
import Depot.Proofs.Blobs

namespace Depot

variable {σ τ α : Type}

/-- A messenger that has a store of blobs beside it. -/
def Messenger.paired (m : Messenger σ) : Messenger (σ × τ) := m.zoom Prod.fst fun s pair => (s, pair.2)

/-- A store of blobs that has a messenger beside it. -/
def Blobs.paired (b : Blobs τ) : Blobs (σ × τ) := b.zoom Prod.snd fun t pair => (pair.1, t)

namespace Offload

def senderOn (m : Messenger σ) (b : Blobs τ) (channel : String) (limit : Int) (cleanUp : Bool) :
    Sender (σ × τ) :=
  ⟨m.paired.publisher channel, b.paired, limit, cleanUp⟩

def restorerOn (m : Messenger σ) (b : Blobs τ) (channel : String) (deleteOnConfirm : Bool) :
    Restorer (σ × τ) :=
  ⟨m.paired.receiver channel, b.paired, deleteOnConfirm⟩

namespace Scope

def withMessenger (s : σ) (scope : Scope (σ × τ)) : Scope (σ × τ) := { scope with inner := (s, scope.inner.2) }

def withStore (t : τ) (scope : Scope (σ × τ)) : Scope (σ × τ) := { scope with inner := (scope.inner.1, t) }

theorem within_messenger {act : Action σ α} {scope : Scope (σ × τ)} {result : Attempt α} {s : σ}
    (run : act scope.inner.1 = (result, s)) :
    within (act.zoom Prod.fst fun s pair => (s, pair.2)) scope = (result, scope.withMessenger s) :=
  Action.zoom_apply (Action.zoom_apply run)

theorem within_messenger_eq_ok {act : Action σ α} {scope later : Scope (σ × τ)} {a : α} :
    within (act.zoom Prod.fst fun s pair => (s, pair.2)) scope = (.ok a, later) ↔
      ∃ s, act scope.inner.1 = (.ok a, s) ∧ later = scope.withMessenger s := by
  constructor
  · intro run
    obtain ⟨inner, answered, left⟩ := Action.zoom_eq_ok run
    obtain ⟨s, put, rfl⟩ := Action.zoom_eq_ok answered
    exact ⟨s, put, left⟩
  · rintro ⟨s, run, rfl⟩
    exact within_messenger run

theorem within_store {act : Action τ α} {scope : Scope (σ × τ)} {result : Attempt α} {t : τ}
    (run : act scope.inner.2 = (result, t)) :
    within (act.zoom Prod.snd fun t pair => (pair.1, t)) scope = (result, scope.withStore t) :=
  Action.zoom_apply (Action.zoom_apply run)

theorem drawKey_apply (scope : Scope (σ × τ)) :
    drawKey scope = (.ok scope.keys.next, { scope with keys := scope.keys.advance }) := rfl

end Scope
end Offload
end Depot
