import Depot.Proofs.Action
import Depot.Proofs.ListClient.Collections

namespace Depot.ListClient

/-- What is told as an answer, where the other is right: the members of a set come in any order. -/
def Request.Same : (r : Request) → r.Answer → r.Answer → Prop
  | members _, told, answer => told.Perm answer
  | write _, told, answer | transaction _, told, answer | setFields .., told, answer => told = answer
  | isMember .., told, answer | length _, told, answer => told = answer
  | front .., told, answer | items _, told, answer | pop .., told, answer => told = answer

theorem Request.same_refl {r : Request} (answer : r.Answer) : r.Same answer answer := by
  cases r with
  | members key => exact .refl _
  | _ => rfl

theorem Request.eq_of_same {r : Request} (exact : ∀ key, r ≠ .members key) {told answer : r.Answer}
    (same : r.Same told answer) : told = answer := by
  cases r with
  | members key => exact absurd rfl (exact key)
  | _ => exact same

variable {σ α : Type}

/-- A call that is not about the data has done nothing to them, and succeeds where no call fails. -/
structure Stays (held : σ → Data) (ready : σ → Prop) (s : σ) (out : Attempt Unit × σ) : Prop where
  data : held out.2 = held s
  answered : ready s → out.1 = .ok () ∧ ready out.2

/-- How a request is answered, and what it leaves. One that is answered has been carried out. One that is not may
have been carried out all the same, and it is answered where no call fails, unless it has to be refused. -/
inductive Serves (held : σ → Data) (ready : σ → Prop) (r : Request) (s : σ) : Attempt r.Answer × σ → Prop
  | done {told answer : r.Answer} {later : σ} (run : r.run (held s) = some (answer, held later))
      (same : r.Same told answer) (stays : ready s → ready later) : Serves held ready r s (.ok told, later)
  | failed {fault : Fault} {later : σ} (excused : ready s → r.run (held s) = none)
      (leads : r.Leads (held s) (held later)) (stays : ready s → ready later) :
      Serves held ready r s (.error fault, later)

/-- The client of a server which does with its collections what requests say, as it is documented for Redis: a set
has each member once, items are added at the end of a list and taken from its front, what has become empty is no
longer there, and what is there of another kind is refused. `held` are the collections, whatever else there is to a
state, and `ready` are the states in which no call fails, of which there need not be any. -/
structure Lawful [ListClient σ] (held : σ → Data) (ready : σ → Prop) : Prop where
  installed {s : σ} (start : ready s) : isInstalled s
  opened (arguments : List (String × Value)) (s : σ) : Stays held ready s (openClient arguments s)
  pinged (s : σ) : Stays held ready s (ping s)
  closed (s : σ) : Stays held ready s (closeClient s)
  served {r : Request} (full : r.Full) (s : σ) : Serves held ready r s (request r s)

namespace Lawful

variable [ListClient σ] {held : σ → Data} {ready : σ → Prop} (lawful : Lawful held ready)
variable {r : Request} {s later : σ} {key : String}
include lawful

theorem request_eq_ok (full : r.Full) {told : r.Answer} (run : request r s = (.ok told, later)) :
    ∃ answer, r.run (held s) = some (answer, held later) ∧ r.Same told answer := by
  have serves := lawful.served full s
  rw [run] at serves
  cases serves with
  | done run same => exact ⟨_, run, same⟩

theorem write_eq_ok {w : Write} (full : w.Full) (run : write w s = (.ok (), later)) :
    w.run (held s) = some (held later) := by
  obtain ⟨_, done, -⟩ := lawful.request_eq_ok (r := .write w) full run
  obtain ⟨data, written, same⟩ := Option.bind_eq_some_iff.mp done
  exact written.trans (congrArg (Option.map Prod.snd) same)

theorem transaction_eq_ok {writes : List Write} (full : ∀ w ∈ writes, w.Full)
    (run : transaction writes s = (.ok (), later)) : writes.foldlM Write.run (held s) = some (held later) := by
  obtain ⟨_, done, -⟩ := lawful.request_eq_ok (r := .transaction writes) full run
  obtain ⟨data, written, same⟩ := Option.bind_eq_some_iff.mp done
  exact written.trans (congrArg (Option.map Prod.snd) same)

theorem items_eq_ok {told : List Bytes} (run : items key s = (.ok told, later)) :
    listAt key (held s) = some told ∧ held later = held s := by
  obtain ⟨answer, done, rfl⟩ := lawful.request_eq_ok (r := .items key) trivial run
  obtain ⟨items, found, same⟩ := Option.bind_eq_some_iff.mp done
  obtain ⟨rfl, kept⟩ := Prod.mk.inj (Option.some.inj same)
  exact ⟨found, kept.symm⟩

theorem members_eq_ok {told : List Bytes} (run : members key s = (.ok told, later)) :
    told.Perm (membersAt key (held s)) := by
  obtain ⟨answer, done, same⟩ := lawful.request_eq_ok (r := .members key) trivial run
  obtain ⟨there, found, left⟩ := Option.bind_eq_some_iff.mp done
  obtain ⟨rfl, -⟩ := Prod.mk.inj (Option.some.inj left)
  exact membersAt_eq found ▸ same

theorem request_eq_error (full : r.Full) {fault : Fault} (run : request r s = (.error fault, later)) :
    (ready s → r.run (held s) = none) ∧ r.Leads (held s) (held later) := by
  have serves := lawful.served full s
  rw [run] at serves
  cases serves with
  | failed excused leads => exact ⟨excused, leads⟩

theorem ready_request (full : r.Full) (start : ready s) : ready (request r s).2 := by
  rcases run : request r s with ⟨answer, later⟩
  have serves := lawful.served full s
  rw [run] at serves
  cases serves with
  | done _ _ stays => exact stays start
  | failed _ _ stays => exact stays start

theorem leads (full : r.Full) (s : σ) : r.Leads (held s) (held (request r s).2) := by
  rcases run : request r s with ⟨fault | told, later⟩
  · exact (lawful.request_eq_error full run).2
  · obtain ⟨answer, done, -⟩ := lawful.request_eq_ok full run
    exact Request.leads_of_run done

/-- Where no call fails, a request that need not be refused is answered. -/
theorem request_of_ready (full : r.Full) (start : ready s) {answer : r.Answer} {data : Data}
    (run : r.run (held s) = some (answer, data)) :
    ∃ told later, request r s = (.ok told, later) ∧ r.Same told answer ∧ held later = data ∧ ready later := by
  have stays := lawful.ready_request full start
  rcases answered : request r s with ⟨fault | told, later⟩ <;> rw [answered] at stays
  · have refused := (lawful.request_eq_error full answered).1 start
    cases refused.symm.trans run
  · obtain ⟨right, done, same⟩ := lawful.request_eq_ok full answered
    cases done.symm.trans run
    exact ⟨told, later, rfl, same, rfl, stays⟩

/-- A request changes nothing under names that it does not mention, whatever becomes of it. -/
theorem elsewhere (full : r.Full) (s : σ) (away : key ∉ r.keys) : held (request r s).2 key = held s key :=
  (lawful.leads full s).elsewhere away

end Lawful

/-- Where no call fails, a request that is refused is refused alike wherever the collections that it mentions are the
same ones, and what is left of it is the same. -/
def Steady [ListClient σ] (held : σ → Data) (ready : σ → Prop) : Prop :=
  ∀ ⦃r : Request⦄, r.Full → ∀ ⦃s t s' t' : σ⦄ ⦃fault fault' : Fault⦄, ready s → ready t →
    Agree (· ∈ r.keys) (held s) (held t) → request r s = (.error fault, s') → request r t = (.error fault', t') →
      fault = fault' ∧ Agree (· ∈ r.keys) (held s') (held t')

/-- Two states in which no call fails, with the same collections under some names. -/
structure Akin (held : σ → Data) (ready : σ → Prop) (K : String → Prop) (s t : σ) : Prop where
  left : ready s
  right : ready t
  agree : Agree K (held s) (held t)

/-- Two answers that are told for the same one, or the same fault. -/
inductive Request.Alike (r : Request) : Attempt r.Answer → Attempt r.Answer → Prop
  | told {answer left right : r.Answer} (same : r.Same left answer) (same' : r.Same right answer) :
      Alike r (.ok left) (.ok right)
  | fault (fault : Fault) : Alike r (.error fault) (.error fault)

theorem Request.Alike.eq {r : Request} (exact : ∀ key, r ≠ .members key) {left right : Attempt r.Answer}
    (alike : r.Alike left right) : left = right := by
  cases alike with
  | told same same' => rw [eq_of_same exact same, eq_of_same exact same']
  | fault => rfl

theorem akin_of_stays {held : σ → Data} {ready : σ → Prop} {K : String → Prop} {s t : σ}
    {out out' : Attempt Unit × σ} (left : Stays held ready s out) (right : Stays held ready t out')
    (akin : Akin held ready K s t) : out.1 = out'.1 ∧ Akin held ready K out.2 out'.2 := by
  obtain ⟨answered, start⟩ := left.answered akin.left
  obtain ⟨answered', start'⟩ := right.answered akin.right
  refine ⟨answered.trans answered'.symm, start, start', ?_⟩
  rw [left.data, right.data]
  exact akin.agree

section

variable [ListClient σ] {held : σ → Data} {ready : σ → Prop} {K : String → Prop} {r : Request} {s t : σ}

theorem akin_request (lawful : Lawful held ready) (steady : Steady held ready) (full : r.Full)
    (within : ∀ key ∈ r.keys, K key) (akin : Akin held ready K s t) :
    r.Alike (request r s).1 (request r t).1 ∧ Akin held ready K (request r s).2 (request r t).2 := by
  have start := lawful.ready_request full akin.left
  have start' := lawful.ready_request full akin.right
  have own : Agree (· ∈ r.keys) (held s) (held t) := fun key inside => akin.agree key (within key inside)
  have rel := Request.run_congr akin.agree within
  -- Under names that are not mentioned nothing changes on either side.
  have others (same : Agree (· ∈ r.keys) (held (request r s).2) (held (request r t).2)) :
      Agree K (held (request r s).2) (held (request r t).2) := by
    intro key inside
    by_cases mentioned : key ∈ r.keys
    · exact same key mentioned
    · rw [lawful.elsewhere full s mentioned, lawful.elsewhere full t mentioned, akin.agree key inside]
  rcases one : request r s with ⟨fault | told, s'⟩ <;> rcases other : request r t with ⟨fault' | told', t'⟩ <;>
    rw [one] at start others <;> rw [other] at start' others
  · obtain ⟨rfl, same⟩ := steady full akin.left akin.right own one other
    exact ⟨.fault fault, start, start', others same⟩
  · obtain ⟨answer, run, -⟩ := lawful.request_eq_ok full other
    rw [(lawful.request_eq_error full one).1 akin.left, run] at rel
    cases rel
  · obtain ⟨answer, run, -⟩ := lawful.request_eq_ok full one
    rw [(lawful.request_eq_error full other).1 akin.right, run] at rel
    cases rel
  · obtain ⟨answer, run, same⟩ := lawful.request_eq_ok full one
    obtain ⟨answer', run', same'⟩ := lawful.request_eq_ok full other
    rw [run, run'] at rel
    cases rel with
    | some both =>
      obtain ⟨rfl, agree⟩ := both
      exact ⟨.told same same', start, start', agree⟩

end
end Depot.ListClient
