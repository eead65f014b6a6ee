import Depot.Proofs.Blobs.Mirrors
import Depot.Proofs.Blobs.Troubles

namespace Depot

/-- A deletion that a service was asked for, and what came of it. -/
structure Deletion where
  bucket : String
  keys : List String
  answer : Attempt (Except ObjectService.Trouble Value)

namespace Deletion

/-- Nothing is reported, whether the errors are left out or there are none. -/
def Accepted (d : Deletion) : Prop := ∃ errors, d.answer = .ok (.ok errors) ∧ errors.isTruthy = false

/-- What a mapping says of the deletion that it reports. -/
def complaint (fields : List (String × Value)) : Fault :=
  let said (name : String) := (((Value.record fields).field? name).getD .null).plain
  .raised .runtime (said "Code" ++ ": " ++ said "Message")

/-- What one request comes to. A request that fails is blamed on the first of its keys, and a mapping on the key that
it names, if it names one. A report that does not begin with a mapping cannot be read. -/
inductive Judged : Deletion → Attempt (Outcome Unit) → Prop
  | accepted {d : Deletion} (accepted : d.Accepted) : Judged d (.ok (.ok ()))
  | raised {bucket first : String} {rest : List String} {answer : Attempt (Except ObjectService.Trouble Value)}
      {trouble : ObjectService.Trouble} (raises : ObjectClient.Raises answer trouble) :
      Judged ⟨bucket, first :: rest, answer⟩ (.ok (.error (.deleteFailed (.text first) (some trouble.fault))))
  | reported {bucket first : String} {rest : List String} {fields : List (String × Value)} {others : List Value} :
      Judged ⟨bucket, first :: rest, .ok (.ok (.list (.record fields :: others)))⟩
        (.ok (.error (.deleteFailed (((Value.record fields).field? "Key").getD (.text first))
          (some (complaint fields)))))
  | garbled {bucket : String} {keys : List String} {errors : Value} {fault : Fault}
      (some_reported : errors.isTruthy = true)
      (no_mapping : ∀ fields others, errors ≠ .list (.record fields :: others)) :
      Judged ⟨bucket, keys, .ok (.ok errors)⟩ (.error fault)

theorem Judged.accepted_of_ok {d : Deletion} (judged : Judged d (.ok (.ok ()))) : d.Accepted := by
  cases judged with
  | accepted accepted => exact accepted

end Deletion

/-- How the requests for some keys end: all of them are accepted and no key is left, or the last one made is not
accepted. -/
inductive Stops (keys : List String) : List Deletion → Attempt (Outcome Unit) → Prop
  | covered {made : List Deletion} (accepted : ∀ d ∈ made, d.Accepted) (all : made.flatMap Deletion.keys = keys) :
      Stops keys made (.ok (.ok ()))
  | stopped {before : List Deletion} {last : Deletion} {result : Attempt (Outcome Unit)}
      (accepted : ∀ d ∈ before, d.Accepted) (stops : ¬ last.Accepted) (judged : last.Judged result) :
      Stops keys (before ++ [last]) result

namespace Stops

variable {keys : List String} {made : List Deletion} {result : Attempt (Outcome Unit)}

theorem ok_iff (stops : Stops keys made result) : result = .ok (.ok ()) ↔ ∀ d ∈ made, d.Accepted := by
  cases stops with
  | covered accepted => exact ⟨fun _ => accepted, fun _ => rfl⟩
  | @stopped before last _ _ stops judged =>
    refine ⟨fun good => absurd (Deletion.Judged.accepted_of_ok (good ▸ judged)) stops, fun each => ?_⟩
    exact absurd (each last (List.mem_append_right _ List.mem_cons_self)) stops

theorem cons {d : Deletion} (accepted : d.Accepted) (stops : Stops keys made result) :
    Stops (d.keys ++ keys) (d :: made) result := by
  cases stops with
  | covered others all =>
    exact .covered (List.forall_mem_cons.mpr ⟨accepted, others⟩) (by rw [List.flatMap_cons, all])
  | stopped others stops judged => exact .stopped (List.forall_mem_cons.mpr ⟨accepted, others⟩) stops judged

end Stops

/-- The keys are sent in order, no request is empty or too large, and only the last one made may hold fewer than it
could. -/
structure InBatches (bucket : String) (keys : List String) (made : List Deletion) : Prop where
  inOrder : made.flatMap Deletion.keys <+: keys
  addressed : ∀ d ∈ made, d.bucket = bucket
  sized : ∀ d ∈ made, 1 ≤ d.keys.length ∧ d.keys.length ≤ 1000
  full : ∀ d ∈ made.dropLast, d.keys.length = 1000

structure Recorded (σ : Type) where
  service : σ
  deletions : List Deletion := []

namespace Recorded

variable {σ α : Type}

def onService (act : Action σ α) : Action (Recorded σ) α :=
  act.zoom Recorded.service fun service s => { s with service }

def recording (bucket : String) (keys : List String) (act : Action σ (Except ObjectService.Trouble Value)) :
    Action (Recorded σ) (Except ObjectService.Trouble Value) := fun s =>
  let (answer, service) := act s.service
  (answer, { service, deletions := s.deletions ++ [⟨bucket, keys, answer⟩] })

instance [ObjectClient σ] : ObjectClient (Recorded σ) where
  isInstalled s := ObjectClient.isInstalled s.service
  openSession arguments := onService (ObjectClient.openSession arguments)
  configure arguments := onService (ObjectClient.configure arguments)
  enter arguments := onService (ObjectClient.enter arguments)
  leave := onService ObjectClient.leave
  put bucket key data := onService (ObjectClient.put bucket key data)
  get bucket key := onService (ObjectClient.get bucket key)
  head bucket key := onService (ObjectClient.head bucket key)
  delete bucket keys := recording bucket keys (ObjectClient.delete bucket keys)
  list bucket start := onService (ObjectClient.list bucket start)

/-- The second is the service that the first one records. -/
def Of (s : Recorded σ) (t : σ) : Prop := s.service = t

theorem agree_onService (act : Action σ α) : Action.Agree Of (onService act) act := by
  rintro s _ rfl
  exact ⟨rfl, rfl⟩

theorem agree_recording (bucket : String) (keys : List String)
    (act : Action σ (Except ObjectService.Trouble Value)) : Action.Agree Of (recording bucket keys act) act := by
  rintro s _ rfl
  exact ⟨rfl, rfl⟩

/-- To record a service does not change it. -/
theorem mirrors (σ : Type) [ObjectClient σ] : Mirrors (Of (σ := σ)) where
  installed := by
    rintro s _ rfl
    rfl
  openSession _ := agree_onService _
  configure _ := agree_onService _
  enter _ := agree_onService _
  leave := agree_onService _
  put _ _ _ := agree_onService _
  get _ _ := agree_onService _
  head _ _ := agree_onService _
  delete _ _ := agree_recording _ _ _
  list _ _ := agree_onService _

end Recorded

namespace Blobs.Bucket

open ObjectService (Trouble chunks chunks_append chunks_singleton flatten_chunks length_of_mem_chunks
  length_of_mem_dropLast_chunks)

variable {σ : Type}

/-- The same bucket, with a record of what its service is asked to delete from now on. -/
def recorded (t : Bucket σ) : Bucket (Recorded σ) := { t with service := { service := t.service } }

theorem list_of_item_record {errors : Value} {fields : List (String × Value)}
    (place : errors.item 0 = .ok (.record fields)) : ∃ others, errors = .list (.record fields :: others) := by
  cases errors with
  | list items =>
    cases items with
    | nil => cases place
    | cons first others =>
      cases place
      exact ⟨others, rfl⟩
  | text s => cases start : s.toList[0]? <;> simp [Value.item, start] at place
  | _ => cases place

theorem reported_of_no_record (first : String) {error : Value} (no_record : ∀ fields, error ≠ .record fields) :
    ∃ fault, reported first error = .error fault := by
  obtain ⟨text, faulty⟩ := Value.fieldOf_of_no_record no_record "Key"
  exact ⟨_, by rw [reported, faulty]; rfl⟩

/-- Only a list that begins with a mapping can be read as a report. -/
theorem batchAnswer_of_garbled {errors : Value} (batch : List String) (some_reported : errors.isTruthy = true)
    (no_mapping : ∀ fields others, errors ≠ .list (.record fields :: others)) :
    ∃ fault, batchAnswer batch (.ok errors) = .error fault := by
  have looks : batchAnswer batch (.ok errors) = do return .error (← reported (batch.headD "") (← errors.item 0)) := by
    rw [batchAnswer, some_reported]
    rfl
  rw [looks]
  rcases place : errors.item 0 with fault | error
  · exact ⟨fault, rfl⟩
  · have no_record : ∀ fields, error ≠ .record fields := by
      rintro fields rfl
      obtain ⟨others, same⟩ := list_of_item_record place
      exact no_mapping fields others same
    obtain ⟨fault, faulty⟩ := reported_of_no_record (batch.headD "") no_record
    refine ⟨fault, ?_⟩
    change (do return .error (← reported (batch.headD "") error) : Attempt (Outcome Unit)) = _
    rw [faulty]
    rfl

theorem batchAnswer_of_accepted {bucket : String} {batch : List String}
    {answer : Attempt (Except Trouble Value)} (accepted : Deletion.Accepted ⟨bucket, batch, answer⟩) :
    batchAnswer batch (ObjectClient.settled answer) = .ok (.ok ()) := by
  obtain ⟨errors, same, none_reported⟩ := accepted
  cases same
  exact batchAnswer_of_falsy batch none_reported

theorem judged_batchAnswer (bucket : String) {batch : List String} (some_key : batch ≠ [])
    (answer : Attempt (Except Trouble Value)) :
    Deletion.Judged ⟨bucket, batch, answer⟩ (batchAnswer batch (ObjectClient.settled answer)) := by
  obtain ⟨first, rest, rfl⟩ := List.exists_cons_of_ne_nil some_key
  rcases answer with fault | trouble | errors
  · exact .raised (.interrupted fault)
  · exact .raised (.refused trouble)
  by_cases some_reported : errors.isTruthy = true
  · by_cases mapping : ∃ fields others, errors = .list (.record fields :: others)
    · obtain ⟨fields, others, rfl⟩ := mapping
      exact .reported
    · have no_mapping : ∀ fields others, errors ≠ .list (.record fields :: others) :=
        fun fields others same => mapping ⟨fields, others, same⟩
      obtain ⟨fault, faulty⟩ := batchAnswer_of_garbled (first :: rest) some_reported no_mapping
      rw [ObjectClient.settled, faulty]
      exact .garbled some_reported no_mapping
  · have accepted : Deletion.Accepted ⟨bucket, first :: rest, .ok (.ok errors)⟩ :=
      ⟨errors, rfl, Bool.not_eq_true _ ▸ some_reported⟩
    rw [batchAnswer_of_accepted accepted]
    exact .accepted accepted

/-- A batch that is not accepted ends the call as it is judged. -/
theorem onSuccess_of_judged {d : Deletion} {result : Attempt (Outcome Unit)} (judged : d.Judged result)
    (refused : ¬ d.Accepted) (next : Unit → Action (Bucket σ) (Outcome Unit)) (s : Bucket σ) :
    (Action.ofAttempt result).onSuccess next s = (result, s) := by
  rcases result with fault | e | done
  · exact Action.onSuccess_of_fault (Action.ofAttempt_apply ..)
  · exact Action.onSuccess_of_error (Action.ofAttempt_apply ..)
  · exact absurd judged.accepted_of_ok refused

variable [ObjectClient σ]

/-- A recorded service is asked, and notes what it has been asked and what came of it. -/
theorem attempt_delete_recorded (bucket : String) (keys : List String) (s : Bucket (Recorded σ)) :
    ∃ answer service, onService (ObjectClient.attempt (ObjectClient.delete bucket keys)) s =
      (.ok (ObjectClient.settled answer), { s with
        service := { service, deletions := s.service.deletions ++ [⟨bucket, keys, answer⟩] } }) :=
  ⟨_, _, onService_apply (ObjectClient.attempt_apply rfl)⟩

/-- The requests made are for the first of the batches, and the last of them decides what is answered. -/
theorem deleteBatches_stops (batches : List (List String)) (some_keys : ∀ batch ∈ batches, batch ≠ [])
    (s : Bucket (Recorded σ)) : ∃ made result service,
      deleteBatches batches s =
        (result, { s with service := { service, deletions := s.service.deletions ++ made } }) ∧
      made.map Deletion.keys <+: batches ∧ (∀ d ∈ made, d.bucket = s.name) ∧ Stops batches.flatten made result := by
  induction batches generalizing s with
  | nil =>
    refine ⟨[], .ok (.ok ()), s.service.service, ?_, List.prefix_rfl, List.forall_mem_nil _,
      .covered (List.forall_mem_nil _) rfl⟩
    rw [List.append_nil]
    rfl
  | cons batch rest ih =>
    obtain ⟨some_key, others⟩ := List.forall_mem_cons.mp some_keys
    obtain ⟨answer, service, asked⟩ := attempt_delete_recorded s.name batch s
    let d : Deletion := ⟨s.name, batch, answer⟩
    rw [deleteBatches, Action.bind_state, Action.bind_of_ok asked]
    by_cases accepted : d.Accepted
    · obtain ⟨made, result, last, run, sent, addressed, stops⟩ := ih others { s with
        service := { service, deletions := s.service.deletions ++ [d] } }
      refine ⟨d :: made, result, last, ?_, List.cons_prefix_cons.mpr ⟨rfl, sent⟩,
        List.forall_mem_cons.mpr ⟨rfl, addressed⟩, stops.cons accepted⟩
      rw [batchAnswer_of_accepted accepted, Action.onSuccess_of_ok (Action.ofAttempt_apply ..), run,
        List.append_assoc, List.singleton_append]
    · have judged : d.Judged _ := judged_batchAnswer s.name some_key answer
      refine ⟨[d], _, service, onSuccess_of_judged judged accepted _ _, ?_, List.forall_mem_singleton.mpr rfl,
        .stopped (List.forall_mem_nil _) accepted judged⟩
      exact List.cons_prefix_cons.mpr ⟨rfl, List.nil_prefix⟩

/-- The batches are pieces of the list of keys, so that what is sent of them is the beginning of it. -/
theorem inBatches_of_chunks {bucket : String} {keys : List String} {made : List Deletion}
    (sent : made.map Deletion.keys <+: chunks batchSize keys) (addressed : ∀ d ∈ made, d.bucket = bucket) :
    InBatches bucket keys made where
  inOrder := by
    obtain ⟨unsent, whole⟩ := sent
    have joined := congrArg List.flatten whole
    rw [List.flatten_append, flatten_chunks (by decide)] at joined
    exact ⟨unsent.flatten, List.flatMap_def .. ▸ joined⟩
  addressed := addressed
  sized d member := by
    obtain ⟨some_key, few⟩ := length_of_mem_chunks (sent.subset (List.mem_map_of_mem member))
    exact ⟨List.length_pos_iff.mpr some_key, few⟩
  full d member := by
    obtain ⟨unsent, whole⟩ := sent
    have followed : d.keys ∈ (chunks batchSize keys).dropLast := by
      rw [← whole]
      by_cases finished : unsent = []
      · rw [finished, List.append_nil, ← List.map_dropLast]
        exact List.mem_map_of_mem member
      · rw [List.dropLast_append_of_ne_nil finished]
        exact List.mem_append_left _ (List.mem_map_of_mem (List.mem_of_mem_dropLast member))
    exact length_of_mem_dropLast_chunks followed

theorem delete_of_open {t : Bucket σ} (opened : t.isOpen = true) {keys : List String} (some_key : keys ≠ []) :
    delete keys t = deleteBatches (chunks batchSize keys) t := by
  have there : ¬ keys.isEmpty = true := fun nothing => some_key (List.isEmpty_iff.mp nothing)
  rw [delete, if_neg there, Action.onSuccess_of_ok (connect_of_open opened)]

theorem delete_recorded (t : Bucket σ) (opened : t.isOpen = true) (keys : List String) :
    ∃ made result service,
      delete keys t.recorded = (result, { t with service := { service, deletions := made } }) ∧
      InBatches t.name keys made ∧ Stops keys made result := by
  by_cases nothing : keys = []
  · subst nothing
    exact ⟨[], .ok (.ok ()), t.service, rfl,
      ⟨List.nil_prefix, List.forall_mem_nil _, List.forall_mem_nil _, List.forall_mem_nil _⟩,
      .covered (List.forall_mem_nil _) rfl⟩
  · obtain ⟨made, result, service, run, sent, addressed, stops⟩ :=
      deleteBatches_stops (chunks batchSize keys) (fun batch member => (length_of_mem_chunks member).1) t.recorded
    rw [flatten_chunks (by decide)] at stops
    refine ⟨made, result, service, ?_, inBatches_of_chunks sent addressed, stops⟩
    exact (delete_of_open (t := t.recorded) opened nothing).trans run

/-- With a client, keys are deleted by requests of at most a thousand keys each, in the order of the keys. The call
succeeds if and only if every request is accepted, and then no key is left. Otherwise the last request made is the
first one that is not accepted, and the call ends as that request is judged; only a report that cannot be read
interrupts it. To record the requests changes neither the answer nor the service. -/
theorem deletion_in_batches (t : Bucket σ) (opened : t.isOpen = true) (keys : List String) :
    ∃ made result service,
      delete keys t.recorded = (result, { t with service := { service, deletions := made } }) ∧
      (delete keys t).1 = result ∧ (delete keys t).2.service = service ∧
      InBatches t.name keys made ∧ Stops keys made result ∧
      (result = .ok (.ok ()) ↔ ∀ d ∈ made, d.Accepted) := by
  obtain ⟨made, result, service, run, batches, stops⟩ := delete_recorded t opened keys
  obtain ⟨same, later⟩ := agree_delete (Recorded.mirrors σ) keys t.recorded t ⟨rfl, rfl, rfl, rfl⟩
  rw [run] at same later
  exact ⟨made, result, service, run, same.symm, later.service.symm, batches, stops, stops.ok_iff⟩

/-- A bucket with a client, whose service reports the given errors. -/
def reporting (errors : List Value) : Bucket where
  settings := { name := "logs" }
  isOpen := true
  service := { deleteErrors := .list errors }

theorem delete_one_more {t : Bucket σ} (opened : t.isOpen = true) {first : List String}
    (full : first.length = batchSize) (last : String) :
    delete (first ++ [last]) t = deleteBatches [first, [last]] t := by
  have some_key : first ≠ [] := List.ne_nil_of_length_pos (full ▸ by decide)
  rw [delete_of_open opened (List.append_ne_nil_of_left_ne_nil some_key _), ← full, chunks_append some_key, full,
    chunks_singleton (by decide)]

/-- One key more than a request can take is left for a second request, which is not made when the first one reports
an error. -/
theorem deletion_in_batches_one_more :
    (∃ made : List Deletion, made.map (fun d => d.keys.length) = [1000, 1] ∧ (∀ d ∈ made, d.Accepted) ∧
      (delete ("k" :: List.replicate 999 "l" ++ ["m"]) (reporting [])).1 = .ok (.ok ())) ∧
    ∃ made : List Deletion, made.map (fun d => d.keys.length) = [1000] ∧
      (delete ("k" :: List.replicate 999 "l" ++ ["m"]) (reporting [.record [("Code", .text "AccessDenied")]])).1 =
        .ok (.error (.deleteFailed (.text "k") (some (.raised .runtime "AccessDenied: None")))) := by
  have full : ("k" :: List.replicate 999 "l").length = 1000 := by rw [List.length_cons, List.length_replicate]
  generalize List.replicate 999 "l" = others at *
  constructor
  · obtain ⟨made, result, service, run, same, -, -, -, ok_iff⟩ :=
      deletion_in_batches (reporting []) rfl ("k" :: others ++ ["m"])
    obtain ⟨rfl, later⟩ := Prod.mk.inj ((delete_one_more rfl full "m").symm.trans run)
    have requests : [_, _] = made := congrArg (fun s => s.service.deletions) later
    refine ⟨made, ?_, ok_iff.mp rfl, same⟩
    rw [← requests, List.map_cons, full]
    rfl
  · obtain ⟨made, result, service, run, same, -⟩ :=
      deletion_in_batches (reporting [.record [("Code", .text "AccessDenied")]]) rfl ("k" :: others ++ ["m"])
    obtain ⟨rfl, later⟩ := Prod.mk.inj ((delete_one_more rfl full "m").symm.trans run)
    have requests : [_] = made := congrArg (fun s => s.service.deletions) later
    refine ⟨made, ?_, same⟩
    rw [← requests, List.map_cons, full]
    rfl

end Blobs.Bucket
end Depot
