import Depot.Messenger.Listed
import Depot.Proofs.Action
import Depot.Proofs.ListClient.Collections
import Depot.Proofs.Message.Envelope
import Depot.Proofs.Messenger.Stamp
import Depot.Proofs.Outcome

namespace Depot.Messenger.Listed

section

variable {σ τ : Type} [Textual τ] {s : Listed σ} {messages : List (Message τ)}

/-- The messenger once the first message has its identifier. -/
theorem encodeAll_cons (m : Message τ) (rest : List (Message τ)) (s : Listed σ) :
    encodeAll (m :: rest) s = (Action.ofAttempt (Envelope.write (stamp s.ids m).1) >>= fun raw => do
        return raw :: (← encodeAll rest) : Action (Listed σ) (List Bytes)) { s with ids := (stamp s.ids m).2 } :=
  Action.bind_of_ok rfl

/-- Messages are stamped and written one after another. -/
theorem encodeAll_of_written {raws : List Bytes}
    (written : (stampAll s.ids messages).1.mapM Envelope.write = .ok raws) :
    encodeAll messages s = (.ok raws, { s with ids := (stampAll s.ids messages).2 }) := by
  induction messages generalizing s raws with
  | nil =>
    cases written
    rfl
  | cons m rest ih =>
    rw [stampAll_cons, List.mapM_cons] at written
    obtain ⟨raw, first, written⟩ := Outcome.bind_eq_ok_iff.mp written
    obtain ⟨more, others, same⟩ := Outcome.bind_eq_ok_iff.mp written
    cases same
    rw [encodeAll_cons, first]
    exact (Action.bind_of_ok rfl).trans ((Action.bind_of_ok (ih others)).trans rfl)

/-- They are written up to the first that cannot be. -/
theorem encodeAll_of_unwritten {fault : Fault}
    (failed : (stampAll s.ids messages).1.mapM Envelope.write = .error fault) :
    ∃ ids, encodeAll messages s = (.error fault, { s with ids }) := by
  induction messages generalizing s with
  | nil => cases failed
  | cons m rest ih =>
    rw [stampAll_cons, List.mapM_cons] at failed
    cases first : Envelope.write (stamp s.ids m).1 with
    | error found =>
      rw [first] at failed
      cases failed
      rw [encodeAll_cons, first]
      exact ⟨_, Action.bind_of_error rfl⟩
    | ok raw =>
      rw [first] at failed
      cases others : (stampAll (stamp s.ids m).2 rest).1.mapM Envelope.write with
      | ok more =>
        rw [others] at failed
        cases failed
      | error found =>
        rw [others] at failed
        cases failed
        obtain ⟨ids, stopped⟩ := ih (s := { s with ids := (stamp s.ids m).2 }) others
        rw [encodeAll_cons, first]
        exact ⟨ids, (Action.bind_of_ok rfl).trans (Action.bind_of_error stopped)⟩

end

/-- The writes that send entries. Without entries the channel alone is written. -/
def posting (name channel : String) (raws : List Bytes) : List ListClient.Write :=
  .sadd (Key.registry name) [channel] :: if raws.isEmpty then [] else [.rpush (Key.pending name channel) raws]

theorem full_posting (name channel : String) (raws : List Bytes) :
    (ListClient.Request.transaction (posting name channel raws)).Full := by
  have registers : (ListClient.Write.sadd (Key.registry name) [channel]).Full := List.cons_ne_nil channel []
  cases raws with
  | nil => exact List.forall_mem_singleton.mpr registers
  | cons raw rest =>
    exact List.forall_mem_cons.mpr ⟨registers, List.forall_mem_singleton.mpr (List.cons_ne_nil raw rest)⟩

variable {σ : Type} {s : Listed σ}

theorem encodeAll_of_fits {messages : List Message} (fits : ∀ m ∈ (stampAll s.ids messages).1, Envelope.Fits m) :
    encodeAll messages s = (.ok ((stampAll s.ids messages).1.map Envelope.form),
      { s with ids := (stampAll s.ids messages).2 }) :=
  encodeAll_of_written (Outcome.mapM_of_forall_mem fun m member => Envelope.write_eq (fits m member))

/-- An entry is read as its message, the origin apart, which is not written. -/
theorem receipt_form {m : Message} (fits : Envelope.Fits m.receive) :
    receipt (Envelope.form m) = .ok ({ m.receive with origin := none }, Envelope.form m.receive) := by
  have written : Envelope.write (Message.receive { m with origin := none }) = .ok (Envelope.form m.receive) :=
    Envelope.write_eq ⟨fits.received, fits.id, fits.content, fits.count, fits.properties⟩
  rw [receipt, Envelope.read_form fits.of_receive]
  simp only [bind, Except.bind, written]
  rfl

end Depot.Messenger.Listed
