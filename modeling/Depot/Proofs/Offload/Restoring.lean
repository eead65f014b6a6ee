import Depot.Proofs.Messenger.Memory
import Depot.Proofs.Offload.Packing
import Depot.Proofs.Outcome

namespace Depot.Offload.Restorer

variable {σ τ : Type} {b : Blobs τ} {held : τ → String → Option Bytes} {faultless : τ → Prop}

/-- What is left of a message whose content has been fetched does not name its blob any more. -/
theorem blobKey?_restored (m : Message) (key : String) (content : Bytes) :
    blobKey? (restored m key content) = none := by
  simp [blobKey?, restored, Table.get?_eraseAll, reserved]

/-- The messages that restoring can make of a message while the blobs are those of a map. -/
def IsRestored (map : String → Option Bytes) (m m' : Message) : Prop :=
  (blobKey? m = none ∧ m' = m) ∨
    ∃ key content, blobKey? m = some key ∧ map key = some content ∧ m' = restored m key content

theorem IsRestored.blobKey? {map : String → Option Bytes} {m m' : Message} (made : IsRestored map m m') :
    blobKey? m' = none := by
  rcases made with ⟨inline, rfl⟩ | ⟨key, content, _, _, rfl⟩
  · exact inline
  · exact blobKey?_restored m key content

/-- Nothing has changed that a later call could notice, the log and faults of the store apart. -/
structure Unchanged (held : τ → String → Option Bytes) (faultless : τ → Prop) (scope later : Scope (σ × τ)) :
    Prop where
  messenger : later.inner.1 = scope.inner.1
  blobs : held later.inner.2 = held scope.inner.2
  keys : later.keys = scope.keys
  faults : faultless later.inner.2 → faultless scope.inner.2

theorem Unchanged.refl (scope : Scope (σ × τ)) : Unchanged held faultless scope scope :=
  ⟨rfl, rfl, rfl, id⟩

theorem Unchanged.trans {first second third : Scope (σ × τ)} (left : Unchanged held faultless first second)
    (right : Unchanged held faultless second third) : Unchanged held faultless first third :=
  ⟨right.messenger.trans left.messenger, right.blobs.trans left.blobs, right.keys.trans left.keys,
    left.faults ∘ right.faults⟩

theorem restore_cases (lawful : b.Lawful held faultless) {r : Restorer (σ × τ)} (stores : r.blobs = b.paired)
    (m : Message) (scope : Scope (σ × τ)) :
    ∃ result later, r.restore m scope = (result, later) ∧ Unchanged held faultless scope later ∧
      ∀ m', result = .ok (.ok m') → IsRestored (held scope.inner.2) m m' := by
  unfold restore
  cases named : m.properties.get? contentHeader with
  | none =>
    refine ⟨_, _, rfl, .refl scope, fun m' same => Or.inl ⟨named, ?_⟩⟩
    cases same
    rfl
  | some key =>
    obtain ⟨result, t, run, same, effect⟩ := lawful.read key scope.inner.2
    have read : Scope.within (r.blobs.read key) scope = (.ok result, scope.withStore t) := by
      rw [stores]
      exact Scope.within_store run
    have unchanged (faults : faultless t → faultless scope.inner.2) (log : List Log.Entry) :
        Unchanged held faultless scope { scope.withStore t with log } := ⟨rfl, same, rfl, faults⟩
    rcases effect with ⟨⟨content, rfl, inside⟩, faults⟩ | ⟨⟨e, rfl⟩, faults⟩
    · have found : ∀ m', restored m key content = m' → IsRestored (held scope.inner.2) m m' := fun m' made =>
        Or.inr ⟨key, content, named, inside, made.symm⟩
      cases stated : lengthContradicted m content with
      | error fault =>
        refine ⟨.error fault, scope.withStore t, ?_, ⟨rfl, same, rfl, faults⟩, fun _ same => by cases same⟩
        refine (Action.bind_of_ok read).trans (Action.bind_of_error ?_)
        rw [Action.ofAttempt, stated]
      | ok contradiction =>
        have checked : Action.ofAttempt (lengthContradicted m content) (scope.withStore t) =
            (.ok contradiction, scope.withStore t) := by rw [Action.ofAttempt, stated]
        cases contradiction with
        | some fault =>
          exact ⟨_, _, (Action.bind_of_ok read).trans (Action.bind_of_ok checked), unchanged faults _,
            fun _ same => by cases same⟩
        | none =>
          refine ⟨_, _, (Action.bind_of_ok read).trans (Action.bind_of_ok checked), unchanged faults _,
            fun m' same => found m' ?_⟩
          cases same
          rfl
    · exact ⟨_, _, Action.bind_of_ok read, unchanged (fun now => (faults now).1) _, fun _ same => by cases same⟩

/-- Restoring a batch changes nothing, and each message that comes out was made of the one in its place. -/
theorem restoreAll_cases (lawful : b.Lawful held faultless) {r : Restorer (σ × τ)} (stores : r.blobs = b.paired)
    (messages : List Message) (scope : Scope (σ × τ)) :
    ∃ result later, r.restoreAll messages scope = (result, later) ∧ Unchanged held faultless scope later ∧
      ∀ outcomes, result = .ok outcomes →
        List.Forall₂ (fun m outcome => ∀ m', outcome = .ok m' → IsRestored (held scope.inner.2) m m')
          messages outcomes := by
  have each : ∃ results later, Action.runAll (messages.map r.restore) scope = (results, later) ∧
      Unchanged held faultless scope later ∧
      List.Forall₂ (fun m result => ∀ m', result = .ok (.ok m') → IsRestored (held scope.inner.2) m m')
        messages results := by
    induction messages generalizing scope with
    | nil => exact ⟨_, _, rfl, .refl scope, .nil⟩
    | cons m rest ih =>
      obtain ⟨result, middle, run, unchanged, made⟩ := restore_cases lawful stores m scope
      obtain ⟨results, later, runs, unchangedMore, madeMore⟩ := ih middle
      refine ⟨result :: results, later, ?_, unchanged.trans unchangedMore, .cons made ?_⟩
      · rw [List.map_cons, Action.runAll_cons run, runs]
      · rw [← unchanged.blobs]
        exact madeMore
  obtain ⟨results, later, runs, unchanged, made⟩ := each
  refine ⟨results.mapM id, later, ?_, unchanged, fun outcomes succeeded => ?_⟩
  · rw [restoreAll, Action.gather_apply, runs]
  · rw [Outcome.mapM_id_eq_ok_iff.mp succeeded, List.forall₂_map_right_iff] at made
    exact made.imp fun m outcome known m' same => known m' (congrArg Except.ok same)

/-- Releasing the blobs of messages removes all of them, or none if the store fails. -/
theorem release_cases (lawful : b.Lawful held faultless) {r : Restorer (σ × τ)} (stores : r.blobs = b.paired)
    (deletes : r.deleteOnConfirm) (messages : List Message) (scope : Scope (σ × τ)) :
    ∃ later : Scope (σ × τ), r.release messages scope = (.ok (), later) ∧ later.inner.1 = scope.inner.1 ∧
      later.keys = scope.keys ∧
      ((held later.inner.2 = withoutKeys (held scope.inner.2) (messages.filterMap Message.origin) ∧
          (faultless later.inner.2 → faultless scope.inner.2)) ∨
        (held later.inner.2 = held scope.inner.2 ∧ ¬ faultless later.inner.2)) := by
  unfold release
  simp only [deletes, Bool.not_true, Bool.false_or, stores]
  by_cases none_given : (messages.filterMap Message.origin).isEmpty
  · rw [if_pos none_given]
    rw [List.isEmpty_iff.mp none_given, withoutKeys_nil]
    exact ⟨scope, rfl, rfl, rfl, Or.inl ⟨rfl, id⟩⟩
  · rw [if_neg none_given]
    obtain ⟨result, t, run, effect⟩ := lawful.delete (messages.filterMap Message.origin) scope.inner.2
    have deleted : Scope.within (b.paired.delete (messages.filterMap Message.origin)) scope =
        (.ok result, scope.withStore t) := by
      exact Scope.within_store run
    rcases effect with ⟨rfl, gone, before⟩ | ⟨⟨e, rfl⟩, same, failed⟩
    · exact ⟨_, Action.bind_of_ok deleted, rfl, rfl, Or.inl ⟨gone, before⟩⟩
    · exact ⟨_, Action.bind_of_ok deleted, rfl, rfl, Or.inr ⟨same, failed⟩⟩

end Depot.Offload.Restorer

namespace Depot.Offload

open Messenger (Memory deadLettersOf marked)

variable {τ : Type} (b : Blobs τ) (channel : String) (deletes : Bool) (scope : Scope (Memory × τ))

/-- The messages that a call for so many receives. -/
def nextOf (channel : String) (count : Int) (scope : Scope (Memory × τ)) : List Message :=
  ((scope.inner.1.queue channel).take count.toNat).map Message.receive

/-- It hands over the messages that wait first, or it changes nothing. -/
theorem within_receive_cases (count : Int) :
    let act := Scope.within ((restorerOn Messenger.memory b channel deletes).receiver.receive count)
    (∃ flight, scope.inner.1.inFlight.get? channel = some flight ∧
      act scope = (.ok (.ok (nextOf channel count scope)),
        scope.withMessenger (scope.inner.1.taken channel count.toNat flight))) ∨
    (∃ e, act scope = (.ok (.error e), scope)) ∨ ∃ fault, act scope = (.error fault, scope) := by
  rcases Memory.receive_cases channel count scope.inner.1 with ⟨flight, found, run⟩ | ⟨e, run⟩ | ⟨fault, run⟩
  · exact Or.inl ⟨flight, found, Scope.within_messenger run⟩
  · exact Or.inr (Or.inl ⟨e, Scope.within_messenger run⟩)
  · exact Or.inr (Or.inr ⟨fault, Scope.within_messenger run⟩)

theorem within_confirm (messages : List Message) :
    Scope.within ((restorerOn Messenger.memory b channel deletes).receiver.confirm messages) scope =
      (.ok (.ok ()), scope.withMessenger (scope.inner.1.delete channel (messages.filterMap Message.id))) :=
  Scope.within_messenger rfl

variable {m : Message} (reason : String) (description : Option String)

theorem within_deadLetter_of_no_id (given : m.id = none) :
    Scope.within ((restorerOn Messenger.memory b channel deletes).receiver.deadLetter m reason description) scope =
      (.ok (.ok ()), scope.withMessenger (scope.inner.1.send (deadLettersOf channel)
        [marked m reason description])) := by
  simp only [restorerOn, Messenger.receiver, given]
  rfl

theorem within_deadLetter_of_id {id : String} (given : m.id = some id) :
    Scope.within ((restorerOn Messenger.memory b channel deletes).receiver.deadLetter m reason description) scope =
      (.ok (.ok ()), scope.withMessenger ((scope.inner.1.send (deadLettersOf channel)
        [marked m reason description]).delete channel [id])) := by
  simp only [restorerOn, Messenger.receiver, given]
  rfl

end Depot.Offload
