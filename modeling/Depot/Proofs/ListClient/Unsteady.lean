import Depot.Proofs.ListClient

namespace Depot

/-- What becomes of a call: it is carried out and answered, or it fails before it is carried out or after. -/
inductive Fate where
  | carried
  | undone (fault : Fault)
  | unreported (fault : Fault)

/-- A server that is reached over a connection which may fail. Calls whose fate is not told are carried out. -/
structure Unsteady (σ : Type) where
  server : σ
  isInstalled : Bool := true
  fates : List Fate := []

namespace Unsteady

open ListClient (Akin Agree Data Lawful Request Serves Stays Steady)

variable {σ α : Type}

def convey (act : Action σ α) : Action (Unsteady σ) α := fun s =>
  match s.fates.headD .carried with
  | .carried => ((act s.server).1, { s with server := (act s.server).2, fates := s.fates.tail })
  | .undone fault => (.error fault, { s with fates := s.fates.tail })
  | .unreported fault => (.error fault, { s with server := (act s.server).2, fates := s.fates.tail })

instance [ListClient σ] : ListClient (Unsteady σ) where
  isInstalled s := s.isInstalled
  openClient arguments := convey (ListClient.openClient arguments)
  ping := convey ListClient.ping
  closeClient := convey ListClient.closeClient
  request r := convey (ListClient.request r)

/-- No call is going to fail. -/
structure Ready (ready : σ → Prop) (s : Unsteady σ) : Prop where
  server : ready s.server
  installed : s.isInstalled = true
  carried : ∀ fate ∈ s.fates, fate = .carried

variable {held : σ → Data} {ready : σ → Prop} {s t : Unsteady σ} {act : Action σ α} {fault : Fault}

theorem convey_carried (told : s.fates.headD .carried = .carried) :
    convey act s = ((act s.server).1, { s with server := (act s.server).2, fates := s.fates.tail }) := by
  rw [convey]
  simp only [told]

theorem convey_undone (told : s.fates.headD .carried = .undone fault) :
    convey act s = (.error fault, { s with fates := s.fates.tail }) := by
  rw [convey]
  simp only [told]

theorem convey_unreported (told : s.fates.headD .carried = .unreported fault) :
    convey act s = (.error fault, { s with server := (act s.server).2, fates := s.fates.tail }) := by
  rw [convey]
  simp only [told]

theorem Ready.headD (start : Ready ready s) : s.fates.headD .carried = .carried := by
  cases told : s.fates with
  | nil => rfl
  | cons fate rest => exact start.carried fate (told ▸ List.mem_cons_self)

theorem Ready.tail (start : Ready ready s) {server : σ} (later : ready server) :
    Ready ready { s with server, fates := s.fates.tail } :=
  ⟨later, start.installed, fun fate member => start.carried fate (List.mem_of_mem_tail member)⟩

theorem Ready.convey {act : Action σ α} (stays : ready s.server → ready (act s.server).2) (start : Ready ready s) :
    Ready ready (convey act s).2 := by
  rw [convey_carried start.headD]
  exact start.tail (stays start.server)

theorem stays_convey {act : Action σ Unit} (stays : Stays held ready s.server (act s.server)) :
    Stays (fun s : Unsteady σ => held s.server) (Ready ready) s (convey act s) where
  data := by
    cases told : s.fates.headD .carried with
    | carried => rw [convey_carried told]; exact stays.data
    | undone fault => rw [convey_undone told]
    | unreported fault => rw [convey_unreported told]; exact stays.data
  answered start := by
    rw [convey_carried start.headD]
    exact ⟨(stays.answered start.server).1, start.tail (stays.answered start.server).2⟩

/-- A call that fails has been carried out or not, whatever its answer would have been. -/
theorem serves_convey [ListClient σ] (lawful : Lawful held ready) {r : Request} (full : r.Full) (s : Unsteady σ) :
    Serves (fun s : Unsteady σ => held s.server) (Ready ready) r s (convey (ListClient.request r) s) := by
  have stays : Ready ready s → Ready ready (convey (ListClient.request r) s).2 := .convey (lawful.ready_request full)
  cases told : s.fates.headD .carried with
  | carried =>
    rw [convey_carried told] at stays ⊢
    rcases run : ListClient.request r s.server with ⟨fault | answer, server⟩
    · obtain ⟨excused, leads⟩ := lawful.request_eq_error full run
      rw [run] at stays
      exact .failed (fun start => excused start.server) leads stays
    · obtain ⟨right, done, same⟩ := lawful.request_eq_ok full run
      rw [run] at stays
      exact .done done same stays
  | undone fault =>
    rw [convey_undone told] at stays ⊢
    exact .failed (fun start => nomatch told.symm.trans start.headD) (r.leads_refl _) stays
  | unreported fault =>
    rw [convey_unreported told] at stays ⊢
    exact .failed (fun start => nomatch told.symm.trans start.headD) (lawful.leads full s.server) stays

theorem lawful [ListClient σ] (inner : Lawful held ready) :
    Lawful (fun s : Unsteady σ => held s.server) (Ready ready) where
  installed start := start.installed
  opened arguments s := stays_convey (inner.opened arguments s.server)
  pinged s := stays_convey (inner.pinged s.server)
  closed s := stays_convey (inner.closed s.server)
  served full s := serves_convey inner full s

end Unsteady
end Depot
