import Depot.ListServer
import Depot.Proofs.ListClient

namespace Depot.ListServer

open ListClient (Lawful Request Steady)

variable {r : Request} {s : ListServer}

theorem ask_of_run {answer : r.Answer} {data : ListClient.Data} (run : r.run s.data = some (answer, data)) :
    ask r s = (.ok answer, { s with data }) := by
  rw [ask, run]

theorem ask_of_refused (refused : r.run s.data = none) : ask r s = (.error (refusal r), s) := by
  rw [ask, refused]

/-- The server does what requests say, and no call to it fails. -/
theorem lawful : Lawful ListServer.data fun _ => True where
  installed _ := rfl
  opened _ _ := ⟨rfl, fun _ => ⟨rfl, trivial⟩⟩
  pinged _ := ⟨rfl, fun _ => ⟨rfl, trivial⟩⟩
  closed _ := ⟨rfl, fun _ => ⟨rfl, trivial⟩⟩
  served {r} _ s := by
    change ListClient.Serves _ _ r s (ask r s)
    cases run : r.run s.data with
    | none =>
      rw [ask_of_refused run]
      exact .failed (fun _ => run) (r.leads_refl s.data) id
    | some done =>
      rw [ask_of_run run]
      exact .done run (Request.same_refl _) id

theorem steady : Steady ListServer.data fun _ => True := by
  intro r full s t s' t' fault fault' _ _ agree run run'
  have refused (s s' : ListServer) (fault : Fault) (run : ask r s = (.error fault, s')) :
      fault = refusal r ∧ s' = s := by
    cases done : r.run s.data with
    | none =>
      rw [ask_of_refused done] at run
      cases run
      exact ⟨rfl, rfl⟩
    | some done' =>
      rw [ask_of_run done] at run
      cases run
  obtain ⟨rfl, rfl⟩ := refused _ _ _ run
  obtain ⟨rfl, rfl⟩ := refused _ _ _ run'
  exact ⟨rfl, agree⟩

end Depot.ListServer
