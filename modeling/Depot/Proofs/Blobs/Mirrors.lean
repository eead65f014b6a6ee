import Depot.Proofs.Action.Relations
import Depot.Proofs.Blobs.Refinement

namespace Depot

open Depot.Action (Agree)

/-- From states that are related, two services answer everything alike and come to states that are related. -/
structure Mirrors {σ τ : Type} [ObjectClient σ] [ObjectClient τ] (E : σ → τ → Prop) : Prop where
  installed {s : σ} {t : τ} (alike : E s t) : ObjectClient.isInstalled s = ObjectClient.isInstalled t
  openSession (arguments : List (String × Value)) :
    Agree E (ObjectClient.openSession arguments) (ObjectClient.openSession arguments)
  configure (arguments : List (String × Value)) :
    Agree E (ObjectClient.configure arguments) (ObjectClient.configure arguments)
  enter (arguments : List (String × Value)) :
    Agree E (ObjectClient.enter arguments) (ObjectClient.enter arguments)
  leave : Agree E ObjectClient.leave ObjectClient.leave
  put (bucket key : String) (data : Bytes) :
    Agree E (ObjectClient.put bucket key data) (ObjectClient.put bucket key data)
  get (bucket key : String) : Agree E (ObjectClient.get bucket key) (ObjectClient.get bucket key)
  head (bucket key : String) : Agree E (ObjectClient.head bucket key) (ObjectClient.head bucket key)
  delete (bucket : String) (keys : List String) :
    Agree E (ObjectClient.delete bucket keys) (ObjectClient.delete bucket keys)
  list (bucket : String) (start : Option String) :
    Agree E (ObjectClient.list bucket start) (ObjectClient.list bucket start)

namespace Blobs.Bucket

variable {σ τ α β : Type} {E : σ → τ → Prop}

/-- The same settings, both with a client or both without one, and services that are related. -/
structure Like (E : σ → τ → Prop) (s : Bucket σ) (t : Bucket τ) : Prop where
  settings : s.settings = t.settings
  isOpen : s.isOpen = t.isOpen
  isPrepared : s.isPrepared = t.isPrepared
  service : E s.service t.service

theorem Like.name (like : Like E s t) : s.name = t.name := congrArg (·.name) like.settings

theorem agree_update {change : Bucket σ → Bucket σ} {change' : Bucket τ → Bucket τ}
    (each : ∀ s t, Like E s t → Like E (change s) (change' t)) :
    Agree (Like E) (Action.update change) (Action.update change') :=
  fun s t like => ⟨rfl, each s t like⟩

theorem agree_onService {act : Action σ α} {act' : Action τ α} (inner : Agree E act act') :
    Agree (Like E) (onService act) (onService act') :=
  inner.zoom (fun _ _ like => like.service) fun _ _ _ _ like service =>
    ⟨like.settings, like.isOpen, like.isPrepared, service⟩

theorem agree_ofAttempt (result : Attempt α) :
    Agree (Like E) (Action.ofAttempt result) (Action.ofAttempt result) :=
  .still result (fun _ => rfl) fun _ => rfl

theorem agree_pure (a : α) : Agree (Like E) (pure a) (pure a) := .still (.ok a) (fun _ => rfl) fun _ => rfl

theorem agree_attempt {act : Action σ (Except ObjectService.Trouble α)}
    {act' : Action τ (Except ObjectService.Trouble α)} (inner : Agree E act act') :
    Agree E (ObjectClient.attempt act) (ObjectClient.attempt act') :=
  inner.recover fun fault => .still (.ok (.error ⟨fault, none⟩)) (fun _ => rfl) fun _ => rfl

variable [ObjectClient σ] [ObjectClient τ]

section

variable (mirrors : Mirrors E)
include mirrors

theorem agree_openClient (settings : Settings.Bucket) :
    Agree (Like E) (openClient settings) (openClient settings) := by
  have prepared (now : Bool) : Agree (Like E) (Action.update fun s => { s with isPrepared := now })
      (Action.update fun t => { t with isPrepared := now }) :=
    agree_update fun _ _ like => ⟨like.settings, like.isOpen, rfl, like.service⟩
  refine Agree.recover ?_ fun fault => (prepared false).bind fun _ => agree_ofAttempt (.error fault)
  exact (agree_onService (mirrors.openSession _)).bind fun _ =>
    (agree_onService (mirrors.configure _)).bind fun _ => (prepared true).bind fun _ =>
      agree_onService (mirrors.enter _)

theorem agree_connect : Agree (Like E) connect connect := by
  refine .state fun s t like => ?_
  rw [like.isOpen, mirrors.installed like.service, like.settings, like.name]
  split
  · exact agree_pure _
  split
  · exact agree_pure _
  · refine ((agree_openClient mirrors t.settings).bind fun _ => Agree.bind ?_ fun _ => agree_pure _).reporting _
    exact agree_update fun _ _ like => ⟨like.settings, rfl, like.isPrepared, like.service⟩

theorem agree_deleteBatches (batches : List (List String)) :
    Agree (Like E) (deleteBatches batches) (deleteBatches batches) := by
  induction batches with
  | nil => exact agree_pure _
  | cons batch rest ih =>
    refine .state fun s t like => ?_
    rw [like.name]
    exact (agree_onService (agree_attempt (mirrors.delete t.name batch))).bind fun _ =>
      (agree_ofAttempt _).onSuccess fun _ => ih

theorem agree_delete (keys : List String) : Agree (Like E) (delete keys) (delete keys) := by
  unfold delete
  split
  · exact agree_pure _
  · exact (agree_connect mirrors).onSuccess fun _ => agree_deleteBatches mirrors _

end
end Blobs.Bucket
end Depot
