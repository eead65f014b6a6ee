import Depot.Proofs.Blobs.Objects
import Mathlib.Data.List.Permutation

namespace Depot.Blobs

inductive Call where
  | write (key : String) (data : Bytes)
  | read (key : String)
  | contains (key : String)
  | delete (keys : List String)
  | list (start : Option String)

/-- What a call answers. -/
inductive Reply where
  | done
  | content (data : Bytes)
  | known (there : Bool)
  | keys (keys : List String)

section

variable {τ : Type}

def answering {α : Type} (reply : α → Reply) (act : Action τ (Outcome α)) : Action τ (Outcome Reply) := do
  return (← act).map reply

theorem answering_of_ok {α : Type} {reply : α → Reply} {act : Action τ (Outcome α)} {t later : τ}
    {result : Outcome α} (run : act t = (.ok result, later)) :
    answering reply act t = (.ok (result.map reply), later) :=
  Action.bind_of_ok run

def Call.on (b : Blobs τ) : Call → Action τ (Outcome Reply)
  | write key data => answering (fun _ => .done) (b.write key (.bytes data))
  | read key => answering .content (b.read key)
  | contains key => answering .known (b.contains key)
  | delete keys => answering (fun _ => .done) (b.delete keys)
  | list start => answering .keys (b.list start)

/-- The answers to calls made one after another, each with the state after the call. -/
def run (b : Blobs τ) : List Call → τ → List (Attempt (Outcome Reply) × τ)
  | [], _ => []
  | call :: rest, t => call.on b t :: run b rest (call.on b t).2

end

theorem readFrom_eq (s : Store) (key : String) :
    readFrom s key = (s.read? key).elim (.error (.blobNotFound key)) .ok := by
  unfold readFrom
  cases s.read? key <;> rfl

variable {σ : Type} [ObjectClient σ] {name : String} {held : σ → String → Option Bytes} {ready : σ → Prop}
  {s : Store} {t : Bucket σ}

/-- Both answer the call alike, and the bucket then holds what the store does. -/
def Matches (name : String) (held : σ → String → Option Bytes) (ready : σ → Prop) (call : Call) (s : Store)
    (t : Bucket σ) : Prop :=
  (call.on memory s).1 = (call.on bucket t).1 ∧
    Bucket.Holds name held ready (call.on memory s).2.read? (call.on bucket t).2

theorem matches_of_runs {call : Call} {after : Store} {later : Bucket σ} {result : Outcome Reply}
    (inMemory : call.on memory s = (.ok result, after)) (onService : call.on bucket t = (.ok result, later))
    (holds : Bucket.Holds name held ready after.read? later) : Matches name held ready call s t := by
  rw [Matches, inMemory, onService]
  exact ⟨rfl, holds⟩

theorem matches_step (holds : Bucket.Holds name held ready s.read? t)
    (keeps : ObjectClient.Keeps name held ready) (call : Call) : Matches name held ready call s t := by
  cases call with
  | write key data =>
    obtain ⟨later, run, holds⟩ := holds.write keeps key data
    rw [← funext fun key' => s.read?_write key key' data] at holds
    exact matches_of_runs rfl (answering_of_ok run) holds
  | read key =>
    obtain ⟨later, run, holds⟩ := holds.read keeps key
    rw [← readFrom_eq] at run
    exact matches_of_runs rfl (answering_of_ok run) holds
  | contains key =>
    obtain ⟨later, run, holds⟩ := holds.contains keeps key
    rw [← Store.contains_eq_isSome] at run
    exact matches_of_runs rfl (answering_of_ok run) holds
  | delete keys =>
    obtain ⟨later, run, holds⟩ := holds.delete keeps keys
    rw [← funext fun key => s.read?_delete keys key] at holds
    exact matches_of_runs rfl (answering_of_ok run) holds
  | list start =>
    obtain ⟨later, run, holds⟩ := holds.list keeps (s.nodup_keysUnder (start.getD "")) fun _ => Store.mem_keysUnder
    exact matches_of_runs rfl (answering_of_ok run) holds

theorem run_matches (holds : Bucket.Holds name held ready s.read? t)
    (keeps : ObjectClient.Keeps name held ready) (calls : List Call) :
    List.Forall₂ (fun left right => left.1 = right.1 ∧ held right.2.service = left.2.read?)
      (run memory calls s) (run bucket calls t) := by
  -- Every call leaves the bucket holding what the store does, so that the next one starts from there.
  induction calls generalizing s t with
  | nil => exact .nil
  | cons call rest ih =>
    obtain ⟨same, later⟩ := matches_step holds keeps call
    exact .cons ⟨same, later.held⟩ (ih later)

/-- If a service keeps objects as it should, then any calls, in any order, are answered alike by a bucket, whether
or not its client is open yet, and by a store in memory with the same contents, and after each of them the
service holds what the store does. -/
theorem bucket_refines_memory (keeps : ObjectClient.Keeps t.name held ready) (start : ready t.service)
    (same : held t.service = s.read?) (calls : List Call) :
    List.Forall₂ (fun left right => left.1 = right.1 ∧ held right.2.service = left.2.read?)
      (run memory calls s) (run bucket calls t) :=
  run_matches ⟨rfl, start, same⟩ keeps calls

def errands : List Call :=
  [.write "b" [1], .write "a/1" [2], .write "b" [3], .write "a/0" [], .read "b", .read "c", .contains "c",
    .list (some "a/"), .delete ["b", "c", "b"], .contains "b", .list (some ""), .delete []]

theorem bucket_refines_memory_errands :
    let t : Bucket := { settings := { name := "objects" }, service := { pageSize := 1 } }
    List.Forall₂ (fun left right => left.1 = right.1 ∧ right.2.service.objects.read? = left.2.read?)
        (run memory errands {}) (run bucket errands t) ∧
      (run bucket errands t).map Prod.fst =
        [.ok (.ok .done), .ok (.ok .done), .ok (.ok .done), .ok (.ok .done), .ok (.ok (.content [3])),
          .ok (.error (.blobNotFound "c")), .ok (.ok (.known false)), .ok (.ok (.keys ["a/0", "a/1"])),
          .ok (.ok .done), .ok (.ok (.known false)), .ok (.ok (.keys ["a/0", "a/1"])), .ok (.ok .done)] := by
  intro t
  have working : ObjectService.Working { pageSize := 1 } := ⟨rfl, rfl, by decide, rfl⟩
  have alike := bucket_refines_memory (s := {}) (t := t) (ObjectService.keeps_objects "objects") working rfl errands
  have answers : (run memory errands {}).map Prod.fst = (run bucket errands t).map Prod.fst := by
    rw [← List.forall₂_eq_eq_eq, List.forall₂_map_left_iff, List.forall₂_map_right_iff]
    exact alike.imp fun left right same => same.1
  refine ⟨alike, answers.symm.trans ?_⟩
  cbv

end Depot.Blobs
