import Depot.ListClient
import Depot.Proofs.Table
import Depot.Proofs.Text.Utf8

namespace Depot.ListClient

variable {data later : Data} {key other : String}

def membersAt (key : String) (data : Data) : List Bytes := ((setAt key data).getD .empty).keys

def itemsAt (key : String) (data : Data) : List Bytes := (listAt key data).getD []

def fieldsAt (key : String) (data : Data) : Table Bytes Bytes := (hashAt key data).getD .empty

theorem setAt_congr (same : later key = data key) : setAt key later = setAt key data := by
  unfold setAt
  rw [same]

theorem listAt_congr (same : later key = data key) : listAt key later = listAt key data := by
  unfold listAt
  rw [same]

theorem hashAt_congr (same : later key = data key) : hashAt key later = hashAt key data := by
  unfold hashAt
  rw [same]

theorem membersAt_congr (same : later key = data key) : membersAt key later = membersAt key data := by
  rw [membersAt, membersAt, setAt_congr same]

theorem itemsAt_congr (same : later key = data key) : itemsAt key later = itemsAt key data := by
  rw [itemsAt, itemsAt, listAt_congr same]

theorem fieldsAt_congr (same : later key = data key) : fieldsAt key later = fieldsAt key data := by
  rw [fieldsAt, fieldsAt, hashAt_congr same]

theorem membersAt_eq {members : Table Bytes Unit} (there : setAt key data = some members) :
    membersAt key data = members.keys := by
  rw [membersAt, there]
  rfl

theorem itemsAt_eq {items : List Bytes} (there : listAt key data = some items) : itemsAt key data = items := by
  rw [itemsAt, there]
  rfl

theorem fieldsAt_eq {fields : Table Bytes Bytes} (there : hashAt key data = some fields) :
    fieldsAt key data = fields := by
  rw [fieldsAt, there]
  rfl

theorem put_of_ne (different : other ≠ key) (c : Collection) : put key c data other = data other := if_neg different

theorem put_self (key : String) (c : Collection) (data : Data) :
    put key c data key = if c.isEmpty then none else some c := if_pos rfl

@[simp] theorem setAt_put (members : Table Bytes Unit) : setAt key (put key (.set members) data) = some members := by
  unfold setAt
  rw [put_self]
  split_ifs with vacant
  · exact congrArg some (Table.eq_of_entries (List.map_eq_nil_iff.mp (List.isEmpty_iff.mp vacant)).symm)
  · rfl

@[simp] theorem listAt_put (items : List Bytes) : listAt key (put key (.list items) data) = some items := by
  unfold listAt
  rw [put_self]
  split_ifs with vacant
  · exact congrArg some (List.isEmpty_iff.mp vacant).symm
  · rfl

@[simp] theorem hashAt_put (fields : Table Bytes Bytes) : hashAt key (put key (.hash fields) data) = some fields := by
  unfold hashAt
  rw [put_self]
  split_ifs with vacant
  · exact congrArg some (Table.eq_of_entries (List.map_eq_nil_iff.mp (List.isEmpty_iff.mp vacant)).symm)
  · rfl

/-- The same collections are there under some names. -/
def Agree (K : String → Prop) (data other : Data) : Prop := ∀ key, K key → data key = other key

theorem Agree.put {K : String → Prop} {data other : Data} (agree : Agree K data other) (key : String)
    (c : Collection) : Agree K (put key c data) (put key c other) := by
  intro name inside
  unfold ListClient.put
  rw [agree name inside]

namespace Write

/-- The names that a write mentions. -/
def keys : Write → List String
  | sadd key _ | srem key _ | rpush key _ | lrem key _ | hdel key _ => [key]
  | delete keys => keys

/-- Something is given of all that may be given in any number. -/
def Full : Write → Prop
  | sadd _ given | srem _ given | hdel _ given | delete given => given ≠ []
  | rpush _ items => items ≠ []
  | lrem .. => True

theorem sadd_run {members : Table Bytes Unit} (there : setAt key data = some members) (names : List String) :
    (sadd key names).run data =
      some (put key (.set (members.putAll (names.map fun m => (Utf8.encode m, ())))) data) := by
  rw [run, there]
  rfl

theorem srem_run {members : Table Bytes Unit} (there : setAt key data = some members) (names : List String) :
    (srem key names).run data = some (put key (.set (members.eraseAll (names.map Utf8.encode))) data) := by
  rw [run, there]
  rfl

theorem rpush_run {items : List Bytes} (there : listAt key data = some items) (more : List Bytes) :
    (rpush key more).run data = some (put key (.list (items ++ more)) data) := by
  rw [run, there]
  rfl

theorem lrem_run {items : List Bytes} (there : listAt key data = some items) (item : Bytes) :
    (lrem key item).run data = some (put key (.list (items.erase item)) data) := by
  rw [run, there]
  rfl

theorem hdel_run {fields : Table Bytes Bytes} (there : hashAt key data = some fields) (names : List String) :
    (hdel key names).run data = some (put key (.hash (fields.eraseAll (names.map Utf8.encode))) data) := by
  rw [run, there]
  rfl

/-- What is deleted is gone, and nothing else is. -/
theorem delete_run (keys : List String) (data : Data) :
    ∃ later, (delete keys).run data = some later ∧ (∀ key ∈ keys, later key = none) ∧
      ∀ key ∉ keys, later key = data key :=
  ⟨_, rfl, fun _ named => if_pos named, fun _ away => if_neg away⟩

/-- A write that is carried out has found a collection of its kind, or none, and has put another one in its place. -/
theorem exists_of_run {w : Write} (done : w.run data = some later) :
    (∃ key c, w.keys = [key] ∧ later = put key c data) ∨
      later = fun key => if key ∈ w.keys then none else data key := by
  cases w with
  | delete keys => exact Or.inr (Option.some.inj done).symm
  | sadd | srem | rpush | lrem | hdel =>
    obtain ⟨held, -, same⟩ := Option.bind_eq_some_iff.mp done
    exact Or.inl ⟨_, _, rfl, (Option.some.inj same).symm⟩

theorem run_elsewhere {w : Write} (done : w.run data = some later) (away : key ∉ w.keys) : later key = data key := by
  rcases exists_of_run done with ⟨named, c, only, rfl⟩ | rfl
  · exact put_of_ne (List.mem_singleton.not.mp (only ▸ away)) c
  · exact if_neg away

theorem runs_elsewhere {writes : List Write} (done : writes.foldlM run data = some later)
    (away : key ∉ writes.flatMap keys) : later key = data key := by
  induction writes generalizing data with
  | nil =>
    cases done
    rfl
  | cons w rest ih =>
    obtain ⟨middle, first, others⟩ := Option.bind_eq_some_iff.mp done
    rw [List.flatMap_cons, List.mem_append, not_or] at away
    exact (ih others away.2).trans (run_elsewhere first away.1)

section

variable {K : String → Prop} {different : Data} (agree : Agree K data different)
include agree

theorem run_congr {w : Write} (within : ∀ key ∈ w.keys, K key) :
    Option.Rel (Agree K) (w.run data) (w.run different) := by
  cases w with
  | delete keys =>
    refine .some fun key inside => ?_
    rw [agree key inside]
  | sadd key | srem key =>
    rw [run, run, setAt_congr (agree key (within key List.mem_cons_self))]
    cases setAt key different with
    | none => exact .none
    | some held => exact .some (agree.put key _)
  | rpush key | lrem key =>
    rw [run, run, listAt_congr (agree key (within key List.mem_cons_self))]
    cases listAt key different with
    | none => exact .none
    | some held => exact .some (agree.put key _)
  | hdel key =>
    rw [run, run, hashAt_congr (agree key (within key List.mem_cons_self))]
    cases hashAt key different with
    | none => exact .none
    | some held => exact .some (agree.put key _)

theorem runs_congr {writes : List Write} (within : ∀ key ∈ writes.flatMap keys, K key) :
    Option.Rel (Agree K) (writes.foldlM run data) (writes.foldlM run different) := by
  induction writes generalizing data different with
  | nil => exact .some agree
  | cons w rest ih =>
    rw [List.flatMap_cons] at within
    have first := run_congr agree (w := w) fun key named => within key (List.mem_append_left _ named)
    rw [List.foldlM_cons, List.foldlM_cons]
    cases one : w.run data <;> cases other : w.run different <;> rw [one, other] at first <;> cases first
    · exact .none
    · rename_i agree
      exact ih agree fun key named => within key (List.mem_append_right _ named)

end

/-- Items are removed one occurrence at a time. -/
theorem lremAll_run {items : List Bytes} (there : listAt key data = some items) (doomed : List Bytes) :
    ∃ later, (doomed.map (lrem key)).foldlM run data = some later ∧
      listAt key later = some (items.diff doomed) := by
  induction doomed generalizing data items with
  | nil => exact ⟨data, rfl, there⟩
  | cons item rest ih =>
    have erased : listAt key (put key (.list (items.erase item)) data) = some (items.erase item) := listAt_put _
    obtain ⟨later, others, left⟩ := ih erased
    refine ⟨later, ?_, ?_⟩
    · rw [List.map_cons, List.foldlM_cons, lrem_run there]
      exact others
    · rw [List.diff_cons]
      exact left

theorem keys_lremAll {doomed : List Bytes} (different : other ≠ key) :
    other ∉ (doomed.map (lrem key)).flatMap keys := by
  rw [List.flatMap_map, List.mem_flatMap]
  rintro ⟨item, -, same⟩
  exact different (List.mem_singleton.mp same)

end Write

namespace Request

/-- The names that a request mentions. -/
def keys : Request → List String
  | write w => w.keys
  | transaction writes => writes.flatMap Write.keys
  | isMember key _ | members key | length key | front key _ | items key | pop key _ | setFields key _ => [key]

/-- Something is asked for, and something is given of all that may be given in any number. -/
def Full : Request → Prop
  | write w => w.Full
  | transaction writes => ∀ w ∈ writes, w.Full
  | front _ count | pop _ count => 0 < count
  | setFields _ fields => fields ≠ []
  | isMember .. | members _ | length _ | items _ => True

/-- What a request may have done that is not answered. Of a transaction each write may have been carried out. -/
def Leads (data later : Data) : Request → Prop
  | transaction writes => ∃ carried, List.Sublist carried writes ∧ carried.foldlM Write.run data = some later
  | r => later = data ∨ ∃ answer, r.run data = some (answer, later)

variable {r : Request}

theorem leads_of_run {answer : r.Answer} (done : r.run data = some (answer, later)) : r.Leads data later := by
  cases r with
  | transaction writes =>
    obtain ⟨end', run, same⟩ := Option.bind_eq_some_iff.mp done
    cases same
    exact ⟨writes, .refl _, run⟩
  | _ => exact Or.inr ⟨answer, done⟩

theorem leads_refl (r : Request) (data : Data) : r.Leads data data := by
  cases r with
  | transaction writes => exact ⟨[], List.nil_sublist _, rfl⟩
  | _ => exact Or.inl rfl

theorem write_run {w : Write} (done : w.run data = some later) : (write w).run data = some ((), later) := by
  rw [run, done]
  rfl

theorem transaction_run {writes : List Write} (done : writes.foldlM Write.run data = some later) :
    (transaction writes).run data = some ((), later) := by
  rw [run, done]
  rfl

theorem isMember_run {members : Table Bytes Unit} (there : setAt key data = some members) (member : String) :
    (isMember key member).run data = some (members.contains (Utf8.encode member), data) := by
  rw [run, there]
  rfl

theorem members_run {members : Table Bytes Unit} (there : setAt key data = some members) :
    (Request.members key).run data = some (members.keys, data) := by
  rw [run, there]
  rfl

theorem length_run {items : List Bytes} (there : listAt key data = some items) :
    (length key).run data = some (items.length, data) := by
  rw [run, there]
  rfl

theorem front_run {items : List Bytes} (there : listAt key data = some items) (count : Nat) :
    (front key count).run data = some (items.take count, data) := by
  rw [run, there]
  rfl

theorem items_run {items : List Bytes} (there : listAt key data = some items) :
    (Request.items key).run data = some (items, data) := by
  rw [run, there]
  rfl

theorem pop_run {items : List Bytes} (there : listAt key data = some items) (count : Nat) :
    (pop key count).run data = some (items.take count, put key (.list (items.drop count)) data) := by
  rw [run, there]
  rfl

/-- The bytes that name a field. -/
def fieldOf (name : Option String) : Bytes := Utf8.encode (name.getD "")

theorem fieldOf_injective {name other : Option String} (given : name.isSome) (otherGiven : other.isSome)
    (same : fieldOf name = fieldOf other) : name = other := by
  obtain ⟨text, rfl⟩ := Option.isSome_iff_exists.mp given
  obtain ⟨otherText, rfl⟩ := Option.isSome_iff_exists.mp otherGiven
  exact congrArg some (Utf8.encode_inj.mp same)

theorem encodeFields_of_named {fields : List (Option String × Bytes)} (named : ∀ f ∈ fields, f.1.isSome) :
    encodeFields fields = some (fields.map fun f => (fieldOf f.1, f.2)) := by
  induction fields with
  | nil => rfl
  | cons f rest ih =>
    obtain ⟨given, others⟩ := List.forall_mem_cons.mp named
    obtain ⟨name, same⟩ := Option.isSome_iff_exists.mp given
    unfold encodeFields at ih ⊢
    rw [List.mapM_cons, ih others, List.map_cons, fieldOf, same]
    rfl

theorem named_of_encodeFields {fields : List (Option String × Bytes)} {named : List (Bytes × Bytes)}
    (encoded : encodeFields fields = some named) : ∀ f ∈ fields, f.1.isSome := by
  induction fields generalizing named with
  | nil => exact fun f nowhere => nomatch nowhere
  | cons f rest ih =>
    unfold encodeFields at encoded
    rw [List.mapM_cons] at encoded
    obtain ⟨first, one, encoded⟩ := Option.bind_eq_some_iff.mp encoded
    obtain ⟨others, more, -⟩ := Option.bind_eq_some_iff.mp encoded
    obtain ⟨name, given, -⟩ := Option.bind_eq_some_iff.mp one
    exact List.forall_mem_cons.mpr ⟨Option.isSome_iff_exists.mpr ⟨name, given⟩, ih more⟩

theorem setFields_run {known : Table Bytes Bytes} (there : hashAt key data = some known)
    {fields : List (Option String × Bytes)} (named : ∀ f ∈ fields, f.1.isSome) :
    (setFields key fields).run data =
      some ((), put key (.hash (known.putAll (fields.map fun f => (fieldOf f.1, f.2)))) data) := by
  rw [run, there, encodeFields_of_named named]
  rfl

/-- Fields are put into a hash only, and only if all of them have names. -/
theorem setFields_eq_some {answer : Unit} {fields : List (Option String × Bytes)}
    (done : (setFields key fields).run data = some (answer, later)) :
    (∃ known, hashAt key data = some known) ∧ ∀ f ∈ fields, f.1.isSome := by
  obtain ⟨known, there, done⟩ := Option.bind_eq_some_iff.mp done
  obtain ⟨named, encoded, -⟩ := Option.bind_eq_some_iff.mp done
  exact ⟨⟨known, there⟩, named_of_encodeFields encoded⟩

theorem run_elsewhere {answer : r.Answer} (done : r.run data = some (answer, later)) (away : key ∉ r.keys) :
    later key = data key := by
  cases r with
  | write w =>
    obtain ⟨middle, run, same⟩ := Option.bind_eq_some_iff.mp done
    cases same
    exact Write.run_elsewhere run away
  | transaction writes =>
    obtain ⟨middle, run, same⟩ := Option.bind_eq_some_iff.mp done
    cases same
    exact Write.runs_elsewhere run away
  | isMember | members | length | front | items =>
    obtain ⟨held, -, same⟩ := Option.bind_eq_some_iff.mp done
    cases same
    rfl
  | pop named count =>
    obtain ⟨items, -, same⟩ := Option.bind_eq_some_iff.mp done
    cases same
    exact put_of_ne (List.mem_singleton.not.mp away) _
  | setFields named fields =>
    obtain ⟨known, -, rest⟩ := Option.bind_eq_some_iff.mp done
    obtain ⟨each, -, same⟩ := Option.bind_eq_some_iff.mp rest
    cases same
    exact put_of_ne (List.mem_singleton.not.mp away) _

/-- What a request answers and leaves under some names depends on what is there alone, if it mentions no others. -/
theorem run_congr {K : String → Prop} {different : Data} (agree : Agree K data different)
    (within : ∀ key ∈ r.keys, K key) :
    Option.Rel (fun p q => p.1 = q.1 ∧ Agree K p.2 q.2) (r.run data) (r.run different) := by
  cases r with
  | write w =>
    have rel := Write.run_congr agree within
    rw [run, run]
    cases one : w.run data <;> cases other : w.run different <;> rw [one, other] at rel <;> cases rel
    · exact .none
    · rename_i agree
      exact .some ⟨rfl, agree⟩
  | transaction writes =>
    have rel := Write.runs_congr agree within
    rw [run, run]
    cases one : writes.foldlM Write.run data <;> cases other : writes.foldlM Write.run different <;>
      rw [one, other] at rel <;> cases rel
    · exact .none
    · rename_i agree
      exact .some ⟨rfl, agree⟩
  | isMember key | members key =>
    rw [run, run, setAt_congr (agree key (within key List.mem_cons_self))]
    cases setAt key different with
    | none => exact .none
    | some held => exact .some ⟨rfl, agree⟩
  | length key | front key | items key =>
    rw [run, run, listAt_congr (agree key (within key List.mem_cons_self))]
    cases listAt key different with
    | none => exact .none
    | some held => exact .some ⟨rfl, agree⟩
  | pop key =>
    rw [run, run, listAt_congr (agree key (within key List.mem_cons_self))]
    cases listAt key different with
    | none => exact .none
    | some held => exact .some ⟨rfl, agree.put key _⟩
  | setFields key fields =>
    rw [run, run, hashAt_congr (agree key (within key List.mem_cons_self))]
    cases hashAt key different with
    | none => exact .none
    | some held =>
      cases encodeFields fields with
      | none => exact .none
      | some named => exact .some ⟨rfl, agree.put key _⟩

/-- Whatever becomes of a request, it changes nothing under names that it does not mention. -/
theorem Leads.elsewhere (leads : r.Leads data later) (away : key ∉ r.keys) : later key = data key := by
  cases r with
  | transaction writes =>
    obtain ⟨carried, part, run⟩ := leads
    refine Write.runs_elsewhere run fun member => away ?_
    obtain ⟨w, inside, named⟩ := List.mem_flatMap.mp member
    exact List.mem_flatMap.mpr ⟨w, part.subset inside, named⟩
  | _ =>
    rcases leads with rfl | ⟨answer, run⟩
    · rfl
    · exact run_elsewhere run away

end Request
end Depot.ListClient
