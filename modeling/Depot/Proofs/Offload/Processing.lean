import Depot.Offload.Exchange
import Depot.Proofs.Action
import Depot.Proofs.Outcome

namespace Depot

variable {σ α β : Type}

/-- Each result of calls that are run one after another is the result of its call, in some state. -/
theorem Action.runAll_each (acts : List (Action σ α)) (s : σ) :
    List.Forall₂ (fun act result => ∃ before after, act before = (result, after)) acts (Action.runAll acts s).1 := by
  induction acts generalizing s with
  | nil => exact .nil
  | cons act rest ih => exact .cons ⟨s, _, rfl⟩ (ih _)

namespace Offload.Restorer

/-- What is done with the outcomes of a batch. -/
inductive Effect where
  /-- A failure is given to the handler. -/
  | handled (e : Failure)
  | logged (e : Failure)
  /-- Messages are passed on to the processor. -/
  | processed (messages : List Message)

/-- The entry of a failure that nobody handles. -/
def dropped (e : Failure) : Log.Entry :=
  ⟨.error, "messaging.large", "Dropping undeliverable message", [errorField e]⟩

section

variable (processor : List Message → Action σ Unit) (handler : Option (Failure → Action σ Unit))

/-- Effects are brought about, one after another and no others. -/
inductive Performs : List Effect → Scope σ → Scope σ → Prop
  | nothing (s : Scope σ) : Performs [] s s
  | handled {handle : Failure → Action σ Unit} {e : Failure} {rest : List Effect} {s later : Scope σ} {t : σ}
      (given : handler = some handle) (run : handle e s.inner = (.ok (), t))
      (others : Performs rest { s with inner := t } later) : Performs (.handled e :: rest) s later
  | logged {e : Failure} {rest : List Effect} {s later : Scope σ}
      (others : Performs rest { s with log := s.log ++ [dropped e] } later) : Performs (.logged e :: rest) s later
  | processed {messages : List Message} {rest : List Effect} {s later : Scope σ} {t : σ}
      (run : processor messages s.inner = (.ok (), t)) (others : Performs rest { s with inner := t } later) :
      Performs (.processed messages :: rest) s later

end

/-- How a failure is reported: to the handler if there is one. -/
def report (handler : Option (Failure → Action σ Unit)) (e : Failure) : Effect :=
  if handler.isSome then .handled e else .logged e

/-- The messages of a batch that could be restored. -/
def successes (outcomes : List (Outcome Message)) : List Message := outcomes.filterMap Except.toOption

/-- Messages are passed on together, and no call is made for none. -/
def delivery (messages : List Message) : List Effect := if messages = [] then [] else [.processed messages]

variable {processor : List Message → Action σ Unit} {handler : Option (Failure → Action σ Unit)}

theorem Performs.append {first second : List Effect} {s middle later : Scope σ}
    (before : Performs processor handler first s middle) (after : Performs processor handler second middle later) :
    Performs processor handler (first ++ second) s later := by
  induction before with
  | nothing _ => exact after
  | handled given run _ ih => exact .handled given run (ih after)
  | logged _ ih => exact .logged (ih after)
  | processed run _ ih => exact .processed run (ih after)

/-- Every outcome is a failure or a success. -/
theorem length_failures_add_successes (outcomes : List (Outcome Message)) :
    (failures outcomes).length + (successes outcomes).length = outcomes.length := by
  induction outcomes with
  | nil => rfl
  | cons outcome rest ih =>
    cases outcome with
    | ok m =>
      have same : (successes (.ok m :: rest)).length = (successes rest).length + 1 := rfl
      have others : failures (.ok m :: rest) = failures rest := rfl
      rw [same, others, List.length_cons]
      omega
    | error e =>
      have same : (failures (.error e :: rest)).length = (failures rest).length + 1 := rfl
      have others : successes (.error e :: rest) = successes rest := rfl
      rw [same, others, List.length_cons]
      omega

theorem within_ok {act : Action σ Unit} {s : Scope σ} {t : σ} (run : act s.inner = (.ok (), t)) :
    Scope.within act s = (.ok (), { s with inner := t }) :=
  Action.zoom_apply run

/-- Failures are reported one after another. -/
theorem reportAll_performs (processor : List Message → Action σ Unit)
    (handles : ∀ handle ∈ handler, ∀ e s, ∃ t, handle e s = (.ok (), t))
    (es : List Failure) (s : Scope σ) :
    ∃ later, reportAll handler es s = (.ok (), later) ∧
      Performs processor handler (es.map (report handler)) s later := by
  induction es generalizing s with
  | nil => exact ⟨s, rfl, .nothing s⟩
  | cons e rest ih =>
    rw [List.map_cons]
    unfold reportAll
    cases handler with
    | some handle =>
      obtain ⟨t, run⟩ := handles handle rfl e s.inner
      obtain ⟨later, runs, others⟩ := ih { s with inner := t }
      refine ⟨later, ?_, .handled rfl run others⟩
      exact (Action.bind_of_ok (within_ok run)).trans runs
    | none =>
      obtain ⟨later, runs, others⟩ := ih { s with log := s.log ++ [dropped e] }
      exact ⟨later, runs, .logged others⟩

/-- Messages that are left are passed on. -/
theorem delivery_performs (handler : Option (Failure → Action σ Unit))
    (returns : ∀ messages s, ∃ t, processor messages s = (.ok (), t)) (messages : List Message) (s : Scope σ) :
    ∃ later, (if !messages.isEmpty then Scope.within (processor messages) else pure ()) s = (.ok (), later) ∧
      Performs processor handler (delivery messages) s later := by
  cases messages with
  | nil => exact ⟨s, rfl, .nothing s⟩
  | cons m rest =>
    obtain ⟨t, run⟩ := returns (m :: rest) s.inner
    exact ⟨_, within_ok run, .processed run (.nothing _)⟩

/-- A batch whose outcomes are known has been restored message by message. -/
theorem outcomes_each {r : Restorer σ} {messages : List Message} {outcomes : List (Outcome Message)}
    {scope restored : Scope σ} (run : r.restoreAll messages scope = (.ok outcomes, restored)) :
    List.Forall₂ (fun m outcome => ∃ s t, r.restore m s = (.ok outcome, t)) messages outcomes := by
  have together : (Action.runAll (messages.map r.restore) scope).1.mapM id = .ok outcomes := congrArg Prod.fst run
  have each := Action.runAll_each (messages.map r.restore) scope
  rw [Outcome.mapM_id_eq_ok_iff.mp together, List.forall₂_map_left_iff, List.forall₂_map_right_iff] at each
  exact each

/-- The processor and the handler, if there is one, always return. If a batch can be restored, each of its messages
with an outcome of its own, then processing it comes to an end, and what it has done besides is this: it has reported
the failures, each once and in the order of the batch, to the handler or as errors in the log, and then passed on the
messages that could be restored, in their order and all in one call, or made no call if there are none. Reports and
messages passed on together are as many as the messages of the batch. -/
theorem every_message_accounted (r : Restorer σ) (returns : ∀ messages s, ∃ t, processor messages s = (.ok (), t))
    (handles : ∀ handle ∈ handler, ∀ e s, ∃ t, handle e s = (.ok (), t)) {messages : List Message}
    {outcomes : List (Outcome Message)} {scope restored : Scope σ}
    (run : r.restoreAll messages scope = (.ok outcomes, restored)) :
    List.Forall₂ (fun m outcome => ∃ s t, r.restore m s = (.ok outcome, t)) messages outcomes ∧
      (∃ later, r.process processor handler messages scope = (.ok (), later) ∧
        Performs processor handler ((failures outcomes).map (report handler) ++ delivery (successes outcomes))
          restored later) ∧
      (failures outcomes).length + (successes outcomes).length = messages.length := by
  have each := outcomes_each run
  obtain ⟨reported, reporting, reports⟩ := reportAll_performs processor handles (failures outcomes) restored
  obtain ⟨later, delivering, delivered⟩ := delivery_performs handler returns (successes outcomes) reported
  refine ⟨each, ⟨later, ?_, reports.append delivered⟩, ?_⟩
  · unfold process
    rw [Action.bind_of_ok run, Action.bind_of_ok reporting]
    exact delivering
  · rw [length_failures_add_successes, each.length_eq]

def clerk : Restorer Exchange := ⟨Exchange.receiver "jobs", Exchange.blobs, true⟩

def office : Scope Exchange where
  inner := { store := { entries := .ofList [("a", [1, 2])] } }
  keys := .cycle ["k"]

def letter : Message := { content := [97], id := some "m1" }

def parcelOf (id key : String) : Message := { id := some id, properties := .ofList [(contentHeader, key)] }

theorem every_message_accounted_office :
    ∃ e m restored later, clerk.process Exchange.keepBatch (some Exchange.keepError)
        [letter, parcelOf "m2" "b", parcelOf "m3" "a"] office = (.ok (), later) ∧
      Performs Exchange.keepBatch (some Exchange.keepError) [.handled e, .processed [letter, m]] restored later ∧
      e.key = .text "b" ∧ m.content = [1, 2] ∧ later.inner.errors = [e] ∧ later.inner.batches = [[letter, m]] := by
  have returns (messages : List Message) (s : Exchange) : ∃ t, Exchange.keepBatch messages s = (.ok (), t) := ⟨_, rfl⟩
  have handles : ∀ handle ∈ some Exchange.keepError, ∀ e s, ∃ t, handle e s = (.ok (), t) := by
    intro handle given e s
    cases given
    exact ⟨_, rfl⟩
  have restoring : ∃ e m restored, clerk.restoreAll [letter, parcelOf "m2" "b", parcelOf "m3" "a"] office =
      (.ok [.ok letter, .error e, .ok m], restored) ∧ e.key = .text "b" ∧ m.content = [1, 2] ∧
      restored.inner = office.inner := ⟨_, _, _, rfl, rfl, rfl, rfl⟩
  obtain ⟨e, m, restored, run, key, content, unmoved⟩ := restoring
  obtain ⟨-, ⟨later, processed, performs⟩, -⟩ := every_message_accounted clerk returns handles run
  refine ⟨e, m, restored, later, processed, performs, key, content, ?_⟩
  cases performs with
  | handled given handling others =>
    cases given
    cases handling
    cases others with
    | processed processing others =>
      cases processing
      cases others
      rw [unmoved]
      exact ⟨rfl, rfl⟩

end Offload.Restorer
end Depot
