import Depot.Proofs.Action.Relations

namespace Depot

/-- What is done with clients. One that could not be opened counts for nothing. -/
inductive Deed where
  | opened
  | asked
  | closed
deriving DecidableEq

/-- Deeds in good order, from whether there is a client before them to whether there is one after them. -/
inductive Orderly : Bool → List Deed → Bool → Prop
  | nil (held : Bool) : Orderly held [] held
  | opened {rest : List Deed} {last : Bool} : Orderly true rest last → Orderly false (.opened :: rest) last
  | asked {rest : List Deed} {last : Bool} : Orderly true rest last → Orderly true (.asked :: rest) last
  | closed {rest : List Deed} {last : Bool} : Orderly false rest last → Orderly true (.closed :: rest) last

namespace Orderly

variable {held middle last : Bool} {deeds before after : List Deed}

theorem append (first : Orderly held before middle) (second : Orderly middle after last) :
    Orderly held (before ++ after) last := by
  induction first with
  | nil => exact second
  | opened _ ih => exact .opened (ih second)
  | asked _ ih => exact .asked (ih second)
  | closed _ ih => exact .closed (ih second)

theorem exists_middle (orderly : Orderly held (before ++ after) last) :
    ∃ middle, Orderly held before middle ∧ Orderly middle after last := by
  induction before generalizing held with
  | nil => exact ⟨held, .nil held, orderly⟩
  | cons deed before ih =>
    cases orderly with
    | opened rest =>
      obtain ⟨middle, first, second⟩ := ih rest
      exact ⟨middle, .opened first, second⟩
    | asked rest =>
      obtain ⟨middle, first, second⟩ := ih rest
      exact ⟨middle, .asked first, second⟩
    | closed rest =>
      obtain ⟨middle, first, second⟩ := ih rest
      exact ⟨middle, .closed first, second⟩

theorem of_asked (only : ∀ deed ∈ deeds, deed = .asked) : Orderly true deeds true := by
  induction deeds with
  | nil => exact .nil true
  | cons deed deeds ih =>
    obtain ⟨rfl, rest⟩ := List.forall_mem_cons.mp only
    exact .asked (ih rest)

/-- The clients that were there or were opened are those that were closed or are there. -/
theorem count (orderly : Orderly held deeds last) :
    held.toNat + deeds.count .opened = deeds.count .closed + last.toNat := by
  induction orderly with
  | nil held => exact Nat.add_comm ..
  | opened _ ih =>
    rw [List.count_cons_self, List.count_cons_of_ne (by decide)]
    simp only [Bool.toNat_true, Bool.toNat_false] at ih ⊢
    omega
  | asked _ ih =>
    rw [List.count_cons_of_ne (by decide), List.count_cons_of_ne (by decide)]
    exact ih
  | closed _ ih =>
    rw [List.count_cons_self, List.count_cons_of_ne (by decide)]
    simp only [Bool.toNat_true, Bool.toNat_false] at ih ⊢
    omega

theorem count_before_opened (orderly : Orderly false (before ++ .opened :: after) last) :
    before.count .opened = before.count .closed := by
  obtain ⟨middle, first, second⟩ := orderly.exists_middle
  cases second with
  | opened => simpa using first.count

theorem count_before_asked (orderly : Orderly false (before ++ .asked :: after) last) :
    before.count .opened = before.count .closed + 1 := by
  obtain ⟨middle, first, second⟩ := orderly.exists_middle
  cases second with
  | asked => simpa using first.count

end Orderly

/-- What has a client of its own, in states of type `τ`, and takes calls of type `ι`. -/
structure Holder (τ ι ρ ε : Type) where
  connect : Action τ (Outcome Unit)
  close : Action τ Unit
  perform : ι → Action τ (Outcome ρ)
  /-- Whether there is anything to do for a call that needs a client. -/
  needsClient : ι → Bool
  holds : τ → Bool
  /-- What has reached clients and the service. -/
  log : τ → List ε
  /-- What an entry of the log says about clients. -/
  deed : τ → ε → Option Deed
  /-- A new one with the settings and the service of another. -/
  fresh : τ → τ
  /-- The service lets a client be opened. -/
  Ready : τ → Prop
  /-- The service may become another one while nothing is asked of it. -/
  Elsewhere : τ → τ → Prop

namespace Holder

variable {τ ι ρ ε : Type}

inductive Step (ι : Type) where
  | call (call : ι)
  | connect
  | close

variable (h : Holder τ ι ρ ε)

def after (s : τ) : Step ι → τ
  | .call call => (h.perform call s).2
  | .connect => (h.connect s).2
  | .close => (h.close s).2

/-- What has been done with clients from one state to a later one. -/
def did (s later : τ) : List Deed := ((h.log later).drop (h.log s).length).filterMap (h.deed s)

/-- The states that new ones can come to, each with all that has been done with clients until then. -/
inductive Reaches : List Deed → τ → Prop
  | fresh (s : τ) : Reaches [] (h.fresh s)
  | step {deeds : List Deed} {s : τ} (before : Reaches deeds s) (step : Step ι) :
      Reaches (deeds ++ h.did s (h.after s step)) (h.after s step)
  | elsewhere {deeds : List Deed} {s later : τ} (before : Reaches deeds s) (moved : h.Elsewhere s later) :
      Reaches deeds later

/-- Whatever is done in whatever order, and whatever the service makes of it: all clients that were opened are
closed but the one that is held, none is opened while there is one, and the service is asked only while there is
one. An attempt to connect succeeds just when there is a client or the service lets one be opened, as it may after
any failure. If it fails, then so do the calls that need a client, without asking for anything. To close always
succeeds, and to close again does nothing. -/
structure Careful : Prop where
  balanced {deeds : List Deed} {s : τ} (reaches : h.Reaches deeds s) :
    deeds.count .opened = deeds.count .closed + (h.holds s).toNat
  opened_without {before rest : List Deed} {s : τ} (reaches : h.Reaches (before ++ .opened :: rest) s) :
    before.count .opened = before.count .closed
  asked_within {before rest : List Deed} {s : τ} (reaches : h.Reaches (before ++ .asked :: rest) s) :
    before.count .opened = before.count .closed + 1
  connects {deeds : List Deed} {s : τ} (reaches : h.Reaches deeds s) :
    ((h.holds s = true ∨ h.Ready s) ∧ ∃ later, h.connect s = (.ok (.ok ()), later) ∧ h.holds later = true) ∨
      ¬ (h.holds s = true ∨ h.Ready s) ∧ ∃ e later, h.connect s = (.ok (.error e), later) ∧ h.holds later = false
  fails {deeds : List Deed} {s later : τ} {e : Failure} (reaches : h.Reaches deeds s)
    (failed : h.connect s = (.ok (.error e), later)) {call : ι} (needs : h.needsClient call = true) :
    h.perform call s = (.ok (.error e), later) ∧ .asked ∉ h.did s later
  recovers {deeds : List Deed} {s later last : τ} {e : Failure} (reaches : h.Reaches deeds s)
    (failed : h.connect s = (.ok (.error e), later)) (moved : h.Elsewhere later last) (ready : h.Ready last) :
    ∃ opened, h.connect last = (.ok (.ok ()), opened) ∧ h.holds opened = true
  closes {deeds : List Deed} {s : τ} (reaches : h.Reaches deeds s) :
    ∃ later, h.close s = (.ok (), later) ∧ h.holds later = false ∧ h.close later = (.ok (), later)

/-- The given deeds are done from one state to the next. -/
structure Does (s : τ) (deeds : List Deed) (later : τ) : Prop where
  log : ∃ entries, h.log later = h.log s ++ entries ∧ entries.filterMap (h.deed s) = deeds
  deed : h.deed later = h.deed s

/-- Nothing is done with the client but that it is asked. -/
def Asks (Sound : τ → Prop) (s later : τ) : Prop :=
  Sound s → Sound later ∧ h.holds later = h.holds s ∧ ∃ deeds, h.Does s deeds later ∧ ∀ d ∈ deeds, d = .asked

/-- An attempt to connect leaves a client, or it fails and leaves none. The given deeds are done on the way. -/
inductive Tries (s : τ) (deeds : List Deed) (later : τ) : Prop
  | connected (able : h.holds s = true ∨ h.Ready s) (run : h.connect s = (.ok (.ok ()), later))
      (holding : h.holds later = true) (orderly : Orderly (h.holds s) deeds true)
  | failed {e : Failure} (before : h.holds s = false) (unable : ¬ h.Ready s)
      (run : h.connect s = (.ok (.error e), later)) (without : h.holds later = false)
      (orderly : Orderly false deeds false)

/-- What each step does, in sound states. -/
structure Lawful (Sound : τ → Prop) : Prop where
  fresh (s : τ) : Sound (h.fresh s) ∧ h.holds (h.fresh s) = false
  elsewhere {s later : τ} (moved : h.Elsewhere s later) (sound : Sound s) :
    Sound later ∧ h.holds later = h.holds s
  connected {s : τ} (sound : Sound s) :
    ∃ deeds later, h.Does s deeds later ∧ .asked ∉ deeds ∧ Sound later ∧ h.Tries s deeds later
  performs {s later : τ} {call : ι} (needs : h.needsClient call = true)
    (connects : h.connect s = (.ok (.ok ()), later)) : h.Asks Sound later (h.perform call s).2
  fails {s later : τ} {e : Failure} {call : ι} (needs : h.needsClient call = true)
    (failed : h.connect s = (.ok (.error e), later)) : h.perform call s = (.ok (.error e), later)
  idles {s : τ} {call : ι} (idle : h.needsClient call = false) : (h.perform call s).2 = s
  closed {s : τ} (sound : Sound s) : ∃ deeds later, h.close s = (.ok (), later) ∧ h.Does s deeds later ∧
    Sound later ∧ h.holds later = false ∧ Orderly (h.holds s) deeds false
  closed_again {s : τ} (sound : Sound s) (without : h.holds s = false) : h.close s = (.ok (), s)

variable {h} {Sound : τ → Prop} {s middle later : τ} {deeds deeds' : List Deed}

namespace Does

theorem refl (s : τ) : h.Does s [] s := ⟨⟨[], (List.append_nil _).symm, rfl⟩, rfl⟩

theorem trans (first : h.Does s deeds middle) (second : h.Does middle deeds' later) :
    h.Does s (deeds ++ deeds') later := by
  obtain ⟨entries, grown, rfl⟩ := first.log
  obtain ⟨entries', grown', rfl⟩ := second.log
  refine ⟨⟨entries ++ entries', ?_, ?_⟩, second.deed.trans first.deed⟩
  · rw [grown', grown, List.append_assoc]
  · rw [List.filterMap_append, first.deed]

theorem did_eq (does : h.Does s deeds later) : h.did s later = deeds := by
  obtain ⟨entries, grown, rfl⟩ := does.log
  rw [did, grown, List.drop_left]

end Does

instance : Std.Refl (h.Asks Sound) where
  refl s sound := ⟨sound, rfl, [], .refl s, nofun⟩

instance : IsTrans τ (h.Asks Sound) where
  trans s middle later first second sound := by
    obtain ⟨sound, same, deeds, does, only⟩ := first sound
    obtain ⟨sound, same', deeds', does', only'⟩ := second sound
    exact ⟨sound, same'.trans same, deeds ++ deeds', does.trans does', List.forall_mem_append.mpr ⟨only, only'⟩⟩

namespace Lawful

variable (lawful : h.Lawful Sound)
include lawful

theorem step_orderly (sound : Sound s) (step : Step ι) :
    Sound (h.after s step) ∧ Orderly (h.holds s) (h.did s (h.after s step)) (h.holds (h.after s step)) := by
  cases step with
  | call call =>
    cases needs : h.needsClient call with
    | false =>
      rw [after, lawful.idles needs, (Does.refl s).did_eq]
      exact ⟨sound, .nil _⟩
    | true =>
      obtain ⟨deeds, opened, does, -, opened_sound, tries⟩ := lawful.connected sound
      cases tries with
      | connected _ run holding orderly =>
        obtain ⟨last_sound, same, asked, asks, only⟩ := lawful.performs needs run opened_sound
        rw [holding] at same
        rw [after, (does.trans asks).did_eq, same]
        exact ⟨last_sound, orderly.append (.of_asked only)⟩
      | failed before _ run without orderly =>
        rw [after, lawful.fails needs run, does.did_eq, before, without]
        exact ⟨opened_sound, orderly⟩
  | connect =>
    obtain ⟨deeds, opened, does, -, opened_sound, tries⟩ := lawful.connected sound
    cases tries with
    | connected _ run holding orderly =>
      rw [after, run, does.did_eq, holding]
      exact ⟨opened_sound, orderly⟩
    | failed before _ run without orderly =>
      rw [after, run, does.did_eq, before, without]
      exact ⟨opened_sound, orderly⟩
  | close =>
    obtain ⟨deeds, last, run, does, last_sound, without, orderly⟩ := lawful.closed sound
    rw [after, run, does.did_eq, without]
    exact ⟨last_sound, orderly⟩

theorem orderly_of_reaches (reaches : h.Reaches deeds s) : Sound s ∧ Orderly false deeds (h.holds s) := by
  induction reaches with
  | fresh s =>
    obtain ⟨sound, without⟩ := lawful.fresh s
    rw [without]
    exact ⟨sound, .nil false⟩
  | step _ step ih =>
    obtain ⟨sound, orderly⟩ := lawful.step_orderly ih.1 step
    exact ⟨sound, ih.2.append orderly⟩
  | elsewhere _ moved ih =>
    obtain ⟨sound, same⟩ := lawful.elsewhere moved ih.1
    rw [same]
    exact ⟨sound, ih.2⟩

/-- A failed attempt asks for nothing, and there is no client after it. -/
theorem without_of_failed (sound : Sound s) {e : Failure} (failed : h.connect s = (.ok (.error e), later)) :
    Sound later ∧ h.holds later = false ∧ .asked ∉ h.did s later := by
  obtain ⟨deeds, opened, does, quiet, opened_sound, tries⟩ := lawful.connected sound
  cases tries with
  | connected _ run => cases run.symm.trans failed
  | failed _ _ run without =>
    cases run.symm.trans failed
    exact ⟨opened_sound, without, does.did_eq ▸ quiet⟩

theorem careful : h.Careful where
  balanced reaches := by simpa using (lawful.orderly_of_reaches reaches).2.count
  opened_without reaches := (lawful.orderly_of_reaches reaches).2.count_before_opened
  asked_within reaches := (lawful.orderly_of_reaches reaches).2.count_before_asked
  connects reaches := by
    obtain ⟨deeds, later, -, -, -, tries⟩ := lawful.connected (lawful.orderly_of_reaches reaches).1
    cases tries with
    | connected able run holding => exact Or.inl ⟨able, later, run, holding⟩
    | failed before unable run without =>
      exact Or.inr ⟨not_or.mpr ⟨by simp [before], unable⟩, _, later, run, without⟩
  fails reaches failed _ needs :=
    ⟨lawful.fails needs failed, (lawful.without_of_failed (lawful.orderly_of_reaches reaches).1 failed).2.2⟩
  recovers reaches failed moved ready := by
    obtain ⟨sound, -⟩ := lawful.without_of_failed (lawful.orderly_of_reaches reaches).1 failed
    obtain ⟨deeds, opened, -, -, -, tries⟩ := lawful.connected (lawful.elsewhere moved sound).1
    cases tries with
    | connected _ run holding => exact ⟨opened, run, holding⟩
    | failed _ unable => exact absurd ready unable
  closes reaches := by
    obtain ⟨deeds, later, run, -, sound, without, -⟩ := lawful.closed (lawful.orderly_of_reaches reaches).1
    exact ⟨later, run, without, lawful.closed_again sound without⟩

end Lawful
end Holder
end Depot
