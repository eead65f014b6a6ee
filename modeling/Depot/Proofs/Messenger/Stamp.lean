import Depot.Messenger
import Depot.Proofs.Supply
import Mathlib.Data.List.Forall2

namespace Depot.Messenger

section

variable {τ : Type} [Textual τ]

theorem stampAll_nil (ids : Supply) : (stampAll ids [] : List (Message τ) × Supply) = ([], ids) := rfl

theorem stampAll_cons (ids : Supply) (m : Message τ) (rest : List (Message τ)) :
    stampAll ids (m :: rest) =
      ((stamp ids m).1 :: (stampAll (stamp ids m).2 rest).1, (stampAll (stamp ids m).2 rest).2) := rfl

end

/-- A stamped message is the message with some identifier. -/
theorem stamp_eq (ids : Supply) (m : Message) : ∃ id, (stamp ids m).1 = { m with id := some id } := by
  obtain ⟨content, given, properties, received, origin⟩ := m
  cases given with
  | none => exact ⟨ids.next, rfl⟩
  | some id => exact ⟨id, rfl⟩

theorem stamp_grows (ids : Supply) (m : Message) : ids.Grows (stamp ids m).2 := by
  unfold stamp
  cases m.id with
  | none => exact ids.grows_advance
  | some _ => exact .refl ids

theorem stampAll_grows (ids : Supply) (messages : List Message) : ids.Grows (stampAll ids messages).2 := by
  induction messages generalizing ids with
  | nil => exact .refl ids
  | cons m rest ih => exact (stamp_grows ids m).trans (ih _)

theorem stampAll_append (ids : Supply) (left right : List Message) :
    stampAll ids (left ++ right) =
      ((stampAll ids left).1 ++ (stampAll (stampAll ids left).2 right).1,
        (stampAll (stampAll ids left).2 right).2) := by
  induction left generalizing ids with
  | nil => rfl
  | cons m rest ih => rw [List.cons_append, stampAll_cons, stampAll_cons, ih, List.cons_append]

/-- Whatever does not depend on the identifier is the same after stamping. -/
theorem map_stampAll {α : Type} {f : Message → α} (blind : ∀ (m : Message) id, f { m with id } = f m)
    (ids : Supply) (messages : List Message) : (stampAll ids messages).1.map f = messages.map f := by
  induction messages generalizing ids with
  | nil => rfl
  | cons m rest ih =>
    obtain ⟨id, stamped⟩ := stamp_eq ids m
    rw [stampAll_cons, List.map_cons, List.map_cons, ih, stamped, blind]

theorem length_stampAll (ids : Supply) (messages : List Message) :
    (stampAll ids messages).1.length = messages.length := by
  have same := congrArg List.length (map_stampAll (f := fun _ => ()) (fun _ _ => rfl) ids messages)
  simpa using same

/-- What holds of messages one by one, whatever their identifiers, holds after stamping. -/
theorem forall₂_stampAll {β : Type} {P : Message → β → Prop} (blind : ∀ m id b, P m b → P { m with id } b)
    {messages : List Message} {bs : List β} (each : List.Forall₂ P messages bs) (ids : Supply) :
    List.Forall₂ P (stampAll ids messages).1 bs := by
  induction each generalizing ids with
  | nil => exact .nil
  | cons known _ ih =>
    obtain ⟨id, stamped⟩ := stamp_eq ids _
    rw [stampAll_cons, stamped]
    exact .cons (blind _ _ _ known) (ih _)

theorem id_of_mem_stampAll {ids : Supply} {messages : List Message} {m : Message}
    (member : m ∈ (stampAll ids messages).1) : m.id.isSome := by
  induction messages generalizing ids with
  | nil => cases member
  | cons first rest ih =>
    rw [stampAll_cons, List.mem_cons] at member
    rcases member with rfl | later
    · obtain ⟨id, stamped⟩ := stamp_eq ids first
      rw [stamped]
      rfl
    · exact ih later

/-- New messages are given the names drawn meanwhile, in order. -/
theorem ids_stampAll (ids : Supply) {messages : List Message} (fresh : ∀ m ∈ messages, m.id = none) :
    (stampAll ids messages).1.map Message.id = (ids.since (stampAll ids messages).2).map some := by
  induction messages generalizing ids with
  | nil => simp [stampAll_nil, Supply.since_self]
  | cons m rest ih =>
    obtain ⟨atHead, inTail⟩ := List.forall_mem_cons.mp fresh
    have stamped : stamp ids m = ({ m with id := some ids.next }, ids.advance) := by
      rw [stamp, atHead]
      rfl
    rw [stampAll_cons, stamped, List.map_cons, ih _ inTail,
      Supply.since_append ids.grows_advance (stampAll_grows ids.advance rest),
      Supply.since_advance (.refl ids), Supply.since_self]
    rfl

/-- A message with an identifier keeps it, and draws none. -/
theorem stampAll_of_id {m : Message} {id : String} (given : m.id = some id) (ids : Supply) :
    stampAll ids [m] = ([m], ids) := by
  rw [stampAll_cons, stampAll_nil, stamp, given]

theorem deadLettersOf_ne (channel : String) : channel ≠ deadLettersOf channel := by
  intro same
  have lengths := congrArg String.length same
  rw [deadLettersOf, String.length_append] at lengths
  have suffix : ".deadletter".length = 11 := by rfl
  omega

theorem id_marked (m : Message) (reason : String) (description : Option String) :
    (marked m reason description).id = m.id := by
  cases description <;> rfl

end Depot.Messenger
