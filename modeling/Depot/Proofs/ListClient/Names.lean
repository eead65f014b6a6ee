import Depot.Proofs.ListClient.Collections
import Mathlib.Data.Set.List

namespace Depot.ListClient

variable {data later : Data} {key other : String}

/-- There is a set whose members are the binary forms of texts, or nothing. -/
def Names (key : String) (data : Data) : Prop :=
  ∃ members, setAt key data = some members ∧ ∀ raw ∈ members.keys, ∃ name, Utf8.encode name = raw

/-- A write puts nothing but a set under a name. -/
def Write.Sets (key : String) : Write → Prop
  | rpush other _ | lrem other _ | hdel other _ => key ≠ other
  | sadd .. | srem .. | delete _ => True

def Request.Sets (key : String) : Request → Prop
  | write w => w.Sets key
  | transaction writes => ∀ w ∈ writes, w.Sets key
  | pop other _ | setFields other _ => key ≠ other
  | isMember .. | members _ | length _ | front .. | items _ => True

namespace Names

theorem nothing (key : String) : Names key fun _ => none := ⟨.empty, rfl, fun _ nowhere => nomatch nowhere⟩

theorem exists_eq_map (names : Names key data) : ∃ given : List String, membersAt key data = given.map Utf8.encode := by
  obtain ⟨members, there, each⟩ := names
  have among : members.keys ∈ Set.range (List.map Utf8.encode) := by
    rw [Set.range_list_map]
    exact each
  rw [membersAt_eq there]
  exact among.imp fun _ same => same.symm

theorem congr (names : Names key data) (same : later key = data key) : Names key later := by
  rw [Names, setAt_congr same]
  exact names

theorem put_elsewhere (names : Names key data) (away : key ≠ other) (c : Collection) : Names key (put other c data) :=
  names.congr (put_of_ne away c)

theorem put_set (names : Names key data) {members : Table Bytes Unit}
    (each : key = other → ∀ raw ∈ members.keys, ∃ name, Utf8.encode name = raw) :
    Names key (put other (.set members) data) := by
  by_cases same : key = other
  · subst same
    exact ⟨members, setAt_put members, each rfl⟩
  · exact names.put_elsewhere same _

theorem write_run {w : Write} (sets : w.Sets key) (done : w.run data = some later) (names : Names key data) :
    Names key later := by
  cases w with
  | sadd given added =>
    obtain ⟨members, there, placed⟩ := Option.bind_eq_some_iff.mp done
    cases placed
    refine names.put_set fun here raw member => ?_
    subst here
    obtain ⟨known, found, each⟩ := names
    cases there.symm.trans found
    rcases Table.mem_keys_putAll.mp member with old | new
    · exact each raw old
    · rw [List.map_map, List.mem_map] at new
      obtain ⟨name, -, same⟩ := new
      exact ⟨name, same⟩
  | srem given removed =>
    obtain ⟨members, there, placed⟩ := Option.bind_eq_some_iff.mp done
    cases placed
    refine names.put_set fun here raw member => ?_
    subst here
    obtain ⟨known, found, each⟩ := names
    cases there.symm.trans found
    rw [Table.keys_eraseAll] at member
    exact each raw (List.mem_filter.mp member).1
  | rpush | lrem | hdel =>
    obtain ⟨_, -, placed⟩ := Option.bind_eq_some_iff.mp done
    cases placed
    exact names.put_elsewhere sets _
  | delete keys =>
    cases done
    by_cases gone : key ∈ keys
    · exact (nothing key).congr (if_pos gone)
    · exact names.congr (if_neg gone)

theorem writes_run {writes : List Write} (sets : ∀ w ∈ writes, w.Sets key)
    (done : writes.foldlM Write.run data = some later) (names : Names key data) : Names key later := by
  induction writes generalizing data with
  | nil =>
    cases done
    exact names
  | cons w rest ih =>
    obtain ⟨atHead, inTail⟩ := List.forall_mem_cons.mp sets
    obtain ⟨middle, first, others⟩ := Option.bind_eq_some_iff.mp done
    exact ih inTail others (names.write_run atHead first)

theorem run {r : Request} (sets : r.Sets key) {answer : r.Answer} (done : r.run data = some (answer, later))
    (names : Names key data) : Names key later := by
  cases r with
  | write w =>
    obtain ⟨_, first, same⟩ := Option.bind_eq_some_iff.mp done
    cases same
    exact names.write_run sets first
  | transaction writes =>
    obtain ⟨_, all, same⟩ := Option.bind_eq_some_iff.mp done
    cases same
    exact names.writes_run sets all
  | isMember | members | length | front | items =>
    obtain ⟨_, -, same⟩ := Option.bind_eq_some_iff.mp done
    cases same
    exact names
  | pop =>
    obtain ⟨_, -, placed⟩ := Option.bind_eq_some_iff.mp done
    cases placed
    exact names.put_elsewhere sets _
  | setFields =>
    obtain ⟨_, -, done⟩ := Option.bind_eq_some_iff.mp done
    obtain ⟨_, -, placed⟩ := Option.bind_eq_some_iff.mp done
    cases placed
    exact names.put_elsewhere sets _

/-- Only names are added to a set, whatever becomes of a request. -/
theorem leads {r : Request} (sets : r.Sets key) (leads : r.Leads data later) (names : Names key data) :
    Names key later := by
  cases r with
  | transaction writes =>
    obtain ⟨carried, part, done⟩ := leads
    exact names.writes_run (fun w member => sets w (part.subset member)) done
  | _ =>
    rcases leads with rfl | ⟨_, done⟩
    · exact names
    · exact names.run sets done

end Names
end Depot.ListClient
