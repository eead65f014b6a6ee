import Depot.Proofs.Messenger.Listed
import Depot.Proofs.Offload.Delivery

namespace Depot.Offload

open Messenger (Memory Listed stampAll)

variable {τ : Type} {b : Blobs τ} {held : τ → String → Option Bytes}

theorem length_outgoing (limit : Int) (keys : Supply) (messages : List Message) :
    (outgoing limit keys messages).length = messages.length := by
  have keys_length (keys : Supply) : (blobKeys limit keys messages).length = messages.length := by
    induction messages generalizing keys with
    | nil => rfl
    | cons m rest ih =>
      rw [blobKeys]
      split <;> simp only [List.length_cons, ih]
  rw [outgoing, List.length_zipWith, keys_length, Nat.min_self]

theorem outgoing_eq_nil {limit : Int} {keys : Supply} {messages : List Message}
    (nothing : outgoing limit keys messages = []) : messages = [] := by
  rw [← List.length_eq_zero_iff, ← length_outgoing limit keys, nothing, List.length_nil]

theorem origin_of_mem_outgoing {limit : Int} {keys : Supply} {messages : List Message}
    (plain : ∀ m ∈ messages, Plain m) {m : Message} (member : m ∈ outgoing limit keys messages) :
    m.origin = none := by
  rw [outgoing, ← List.map_uncurry_zip_eq_zipWith] at member
  obtain ⟨⟨original, key⟩, inside, rfl⟩ := List.mem_map.mp member
  have known := (plain original (List.of_mem_zip inside).1).origin
  cases key with
  | none => exact known
  | some key => exact known

/-- Publishing messages of any size on an empty channel and receiving as many gives each of them back, in the
order in which they were published: with its content, its properties, its identifier or the one that it was
given, one receipt more, and the key of its blob exactly if its content is longer than the limit. The
messages name no blob, no key is drawn twice, and the store works. On a server no call fails, and the messages
that go out have to fit into its binary form.

The length of a content is written into a property and read back, and reading stops at 4300 digits; no content
that a machine can hold is so long. -/
theorem published_messages_return (works : b.Works held) (channel : String) (limit : Int)
    (cleanUp deleteOnConfirm : Bool) {messages : List Message} (plain : ∀ m ∈ messages, Plain m)
    (short : ∀ m ∈ messages, m.content.length < 10 ^ Text.digitLimit) {count : Int}
    (enough : messages.length ≤ count) :
    (∀ scope : Scope (Memory × τ), (blobKeys limit scope.keys messages).reduceOption.Nodup →
      scope.inner.1.Clear channel messages →
      Returns Messenger.memory b channel limit cleanUp deleteOnConfirm scope.inner.1.ids messages count scope) ∧
    ∀ {σ : Type} [ListClient σ] {lists : σ → ListClient.Data} {ready : σ → Prop}, ListClient.Lawful lists ready →
      ∀ scope : Scope (Listed σ × τ), (blobKeys limit scope.keys messages).reduceOption.Nodup →
      scope.inner.1.Clear lists ready channel messages →
      (∀ m ∈ (stampAll scope.inner.1.ids (outgoing limit scope.keys messages)).1, Envelope.Fits m.receive) →
      Returns Messenger.listed b channel limit cleanUp deleteOnConfirm scope.inner.1.ids messages count scope := by
  constructor
  · intro scope distinct clear
    refine returns_of_relays works cleanUp deleteOnConfirm plain short distinct (Memory.relays ?_ ?_)
    · exact ⟨clear.nothing_waits, fun nothing => clear.known (outgoing_eq_nil nothing)⟩
    · rw [length_outgoing]
      exact enough
  · intro σ _ lists ready lawful scope distinct clear fits
    refine returns_of_relays works cleanUp deleteOnConfirm plain short distinct (Listed.relays lawful ?_ ?_ ?_)
    · exact { clear with known := fun nothing => clear.known (outgoing_eq_nil nothing) }
    · rw [length_outgoing]
      exact enough
    · intro m member
      refine ⟨fits m member, ?_⟩
      have same := Messenger.map_stampAll (f := Message.origin) (fun _ _ => rfl) scope.inner.1.ids
        (outgoing limit scope.keys messages)
      obtain ⟨sent, inside, equal⟩ := List.mem_map.mp (same ▸ List.mem_map_of_mem member)
      exact equal.symm.trans (origin_of_mem_outgoing plain inside)

/-- A small message with an identifier, and two longer ones without. -/
def parcel : List Message :=
  [{ content := [1], id := some "first" },
    { content := [1, 2, 3], properties := .ofList [("kind", "report")], received := 2 },
    { content := [4, 5, 6, 7] }]

theorem parcel_returns :
    Returns Messenger.memory Blobs.memory "jobs" 2 true true .identifiers parcel 3
        ⟨({}, {}), .cycle ["a", "b"], []⟩ ∧
      Returns Messenger.listed Blobs.memory "jobs" 2 true true .identifiers parcel 3
        ⟨({ settings := {}, server := ({} : ListServer) }, {}), .cycle ["a", "b"], []⟩ ∧
      delivery 2 .identifiers (.cycle ["a", "b"]) parcel =
        [{ content := [1], id := some "first", received := 1 },
          { content := [1, 2, 3], id := some "00000000000000000000000000000001",
            properties := .ofList [("kind", "report")], received := 3, origin := some "a" },
          { content := [4, 5, 6, 7], id := some "00000000000000000000000000000002", received := 1,
            origin := some "b" }] := by
  have plain : ∀ m ∈ parcel, Plain m := by
    simp only [parcel, List.forall_mem_cons]
    refine ⟨⟨rfl, rfl, rfl⟩, ⟨by decide, by decide, rfl⟩, ⟨rfl, rfl, rfl⟩, fun _ none_left => ?_⟩
    exact absurd none_left List.not_mem_nil
  have short : ∀ m ∈ parcel, m.content.length < 10 ^ Text.digitLimit := by
    have small : ∀ m ∈ parcel, m.content.length < 10 := by decide
    have enough_digits (limit : Nat) (some_digits : limit ≠ 0) : 10 ≤ 10 ^ limit :=
      Nat.le_self_pow some_digits 10
    exact fun m member => Nat.lt_of_lt_of_le (small m member) (enough_digits _ (by decide))
  have three : (parcel.length : Int) ≤ 3 := by decide
  obtain ⟨inMemory, onServer⟩ :=
    published_messages_return Blobs.memory_works "jobs" 2 true true plain short three
  refine ⟨?_, ?_, by rfl⟩
  · exact inMemory ⟨({}, {}), .cycle ["a", "b"], []⟩ (by decide) ⟨rfl, fun nothing => by cases nothing⟩
  · refine onServer ListServer.lawful ⟨({ settings := {}, server := {} }, {}), .cycle ["a", "b"], []⟩ (by decide) ?_ ?_
    · exact ⟨trivial, .inr ⟨_, rfl⟩, rfl, rfl, rfl, fun nothing => nomatch nothing⟩
    · decide

end Depot.Offload
