import Depot.Proofs.Blobs.Objects

namespace Depot

namespace Value

/-- Only a record has fields. -/
theorem fieldOf_of_no_record {v : Value} (no_record : ∀ fields, v ≠ .record fields) (name : String) :
    ∃ text, v.fieldOf name = .error (.raised .member text) := by
  cases v with
  | record fields => exact absurd rfl (no_record fields)
  | _ => exact ⟨_, rfl⟩

end Value

namespace ObjectService.Trouble

/-- The response is a record with a record of the error, and this holds the code. -/
def Carries (t : Trouble) (code : String) : Prop :=
  ∃ fields error named, t.response = some (.record fields) ∧
    (Value.record fields).field? "Error" = some (.record error) ∧
    (Value.record error).field? "Code" = some named ∧ named.plain = code

/-- There is a response that is no record, or that holds something else where a record of the error should be. -/
def Garbled (t : Trouble) : Prop :=
  ∃ response, t.response = some response ∧ response.isTruthy = true ∧
    ((∀ fields, response ≠ .record fields) ∨
      ∃ error, response.field? "Error" = some error ∧ ∀ fields, error ≠ .record fields)

variable {t : Trouble}

/-- An empty record reads as a missing one. -/
theorem code_of_record {fields : List (String × Value)} (given : t.response = some (.record fields)) :
    t.code = do
      let code ← (((Value.record fields).field? "Error").getD (.record [])).fieldOf "Code"
      return (code.getD (.text "")).plain := by
  rw [code, given]
  cases fields <;> rfl

theorem code_of_carries {code : String} (carries : t.Carries code) : t.code = .ok code := by
  obtain ⟨fields, error, named, given, atError, atCode, rfl⟩ := carries
  have inside : (Value.record error).fieldOf "Code" = .ok (some named) := congrArg Except.ok atCode
  rw [code_of_record given, atError, Option.getD_some, inside]
  rfl

theorem code_of_garbled (garbled : t.Garbled) : ∃ text, t.code = .error (.raised .member text) := by
  obtain ⟨response, given, there, no_record | ⟨error, atError, no_record⟩⟩ := garbled
  · obtain ⟨text, faulty⟩ := Value.fieldOf_of_no_record no_record "Error"
    refine ⟨text, ?_⟩
    rw [code, given, Option.getD_some, if_pos there, faulty]
    rfl
  · cases response with
    | record fields =>
      obtain ⟨text, faulty⟩ := Value.fieldOf_of_no_record no_record "Code"
      refine ⟨text, ?_⟩
      rw [code_of_record given, atError, Option.getD_some, faulty]
      rfl
    | _ => cases atError

theorem not_carries_of_garbled (garbled : t.Garbled) (code : String) : ¬ t.Carries code := by
  intro carries
  obtain ⟨text, faulty⟩ := code_of_garbled garbled
  cases faulty.symm.trans (code_of_carries carries)

theorem code_of_neither (legible : ¬ t.Garbled) (silent : ∀ code, ¬ t.Carries code) : t.code = .ok "" := by
  cases given : t.response with
  | none => rw [code, given]; rfl
  | some response =>
    by_cases there : response.isTruthy = true
    · cases response with
      | record fields =>
        rw [code_of_record given]
        cases atError : (Value.record fields).field? "Error" with
        | none => rfl
        | some error =>
          cases error with
          | record error =>
            cases atCode : (Value.record error).field? "Code" with
            | none =>
              have inside : (Value.record error).fieldOf "Code" = .ok none := congrArg Except.ok atCode
              rw [Option.getD_some, inside]
              rfl
            | some named => exact absurd ⟨fields, error, named, given, atError, atCode, rfl⟩ (silent named.plain)
          | _ => exact absurd ⟨_, given, there, Or.inr ⟨_, atError, nofun⟩⟩ legible
      | _ => exact absurd ⟨_, given, there, Or.inl nofun⟩ legible
    · rw [code, given, Option.getD_some, if_neg there]
      rfl

end ObjectService.Trouble

namespace ObjectClient

open ObjectService (Trouble)

variable {σ α : Type}

/-- A service refuses a request with a trouble, or something else interrupts it, which leaves no response. -/
inductive Raises : Attempt (Except Trouble α) → Trouble → Prop
  | refused (trouble : Trouble) : Raises (.ok (.error trouble)) trouble
  | interrupted (fault : Fault) : Raises (.error fault) ⟨fault, none⟩

/-- What an attempt at a request comes to. -/
def settled : Attempt (Except Trouble α) → Except Trouble α
  | .ok answer => answer
  | .error fault => .error ⟨fault, none⟩

theorem settled_of_raises {response : Attempt (Except Trouble α)} {trouble : Trouble}
    (raises : Raises response trouble) : settled response = .error trouble := by
  cases raises <;> rfl

theorem attempt_apply {act : Action σ (Except Trouble α)} {s later : σ} {response : Attempt (Except Trouble α)}
    (run : act s = (response, later)) : attempt act s = (.ok (settled response), later) := by
  cases response with
  | ok answer => exact attempt_of_ok run
  | error fault => exact Action.recover_of_fault run

end ObjectClient

namespace Blobs.Bucket

open ObjectService (Trouble)
open ObjectClient (Raises)

variable {σ α β : Type}

/-- How a trouble is judged where an object may be missing: by the code that it carries, if it can be read. -/
structure Classified (t : Trouble) (missing other : Outcome α) (result : Attempt (Outcome α)) : Prop where
  missing_iff : result = .ok missing ↔ ∃ code ∈ missingCodes, t.Carries code
  other_iff : result = .ok other ↔ ¬ t.Garbled ∧ ∀ code ∈ missingCodes, ¬ t.Carries code
  interrupted_iff : (∃ text, result = .error (.raised .member text)) ↔ t.Garbled

theorem unlessMissing_of_code {t : Trouble} {code : String} (told : t.code = .ok code) (missing other : Outcome α) :
    unlessMissing t missing other = .ok (if missingCodes.contains code then missing else other) := by
  rw [unlessMissing, told]
  rfl

theorem unlessMissing_of_garbled {t : Trouble} (garbled : t.Garbled) (missing other : Outcome α) :
    ∃ text, unlessMissing t missing other = .error (.raised .member text) := by
  obtain ⟨text, faulty⟩ := Trouble.code_of_garbled garbled
  refine ⟨text, ?_⟩
  rw [unlessMissing, faulty]
  rfl

theorem unlessMissing_of_other {t : Trouble} (legible : ¬ t.Garbled)
    (unknown : ∀ code ∈ missingCodes, ¬ t.Carries code) (missing other : Outcome α) :
    unlessMissing t missing other = .ok other := by
  by_cases carried : ∃ code, t.Carries code
  · obtain ⟨code, carries⟩ := carried
    have away : missingCodes.contains code = false := by
      rw [← Bool.not_eq_true, List.contains_iff_mem]
      exact fun member => unknown code member carries
    rw [unlessMissing_of_code (Trouble.code_of_carries carries), away]
    rfl
  · rw [unlessMissing_of_code (Trouble.code_of_neither legible (not_exists.mp carried))]
    rfl

theorem classified_unlessMissing (t : Trouble) {missing other : Outcome α} (different : missing ≠ other) :
    Classified t missing other (unlessMissing t missing other) := by
  by_cases garbled : t.Garbled
  · obtain ⟨text, result⟩ := unlessMissing_of_garbled garbled missing other
    rw [result]
    exact ⟨iff_of_false nofun fun ⟨code, _, carries⟩ => Trouble.not_carries_of_garbled garbled code carries,
      iff_of_false nofun fun now => now.1 garbled, iff_of_true ⟨text, rfl⟩ garbled⟩
  by_cases carried : ∃ code ∈ missingCodes, t.Carries code
  · obtain ⟨code, member, carries⟩ := carried
    have known : missingCodes.contains code = true := List.contains_iff_mem.mpr member
    rw [unlessMissing_of_code (Trouble.code_of_carries carries), if_pos known]
    exact ⟨iff_of_true rfl ⟨code, member, carries⟩,
      iff_of_false (fun same => different (Except.ok.inj same)) fun now => now.2 code member carries,
      iff_of_false (fun ⟨_, faulty⟩ => (nomatch faulty)) garbled⟩
  · have unknown : ∀ code ∈ missingCodes, ¬ t.Carries code :=
      fun code member carries => carried ⟨code, member, carries⟩
    rw [unlessMissing_of_other garbled unknown]
    exact ⟨iff_of_false (fun same => different (Except.ok.inj same).symm) carried,
      iff_of_true rfl ⟨garbled, unknown⟩, iff_of_false (fun ⟨_, faulty⟩ => (nomatch faulty)) garbled⟩

variable [ObjectClient σ] {t : Bucket σ}

theorem request_of_open (opened : t.isOpen = true) {act : Bucket σ → Action σ (Except Trouble α)}
    {response : Attempt (Except Trouble α)} {service : σ} (run : act t t.service = (response, service))
    (answer : Except Trouble α → Attempt (Outcome β)) :
    request act answer t = (answer (ObjectClient.settled response), { t with service }) := by
  rw [request, Action.onSuccess_of_ok (connect_of_open opened), Action.bind_state,
    Action.bind_of_ok (onService_apply (ObjectClient.attempt_apply run)), Action.ofAttempt_apply]

/-- A request through a client that ends in a trouble is answered as the trouble is. -/
theorem request_of_raises (opened : t.isOpen = true) {act : Bucket σ → Action σ (Except Trouble α)}
    {response : Attempt (Except Trouble α)} {trouble : Trouble} {service : σ}
    (run : act t t.service = (response, service)) (raises : Raises response trouble)
    (answer : Except Trouble α → Attempt (Outcome β)) :
    request act answer t = (answer (.error trouble), { t with service }) := by
  rw [request_of_open opened run, ObjectClient.settled_of_raises raises]

/-- With a client, a trouble of the service becomes a failure of the operation that has met it. To read an object
and to ask for it tell by the code of the response that it is missing, and fail for every other code and without one.
They are interrupted when the response, or what it says of the error, is no record. -/
theorem troubles_answered_unless_garbled (opened : t.isOpen = true) (trouble : Trouble) (service : σ) :
    (∀ key data response, ObjectClient.put t.name key data t.service = (response, service) →
      Raises response trouble → write key (.bytes data) t =
        (.ok (.error (.writeFailed key (some trouble.fault))), { t with service })) ∧
    (∀ key response, ObjectClient.get t.name key t.service = (response, service) → Raises response trouble →
      ∃ result, read key t = (result, { t with service }) ∧
        Classified trouble (.error (.blobNotFound key)) (.error (.readFailed key (some trouble.fault))) result) ∧
    (∀ key response, ObjectClient.head t.name key t.service = (response, service) → Raises response trouble →
      ∃ result, contains key t = (result, { t with service }) ∧
        Classified trouble (.ok false) (.error (.readFailed key (some trouble.fault))) result) ∧
    ∀ start response, ObjectClient.list t.name (Settings.given? start) t.service = (response, service) →
      Raises response trouble → list start t =
        (.ok (.error (.readFailed (start.getD "") (some trouble.fault))), { t with service }) := by
  refine ⟨fun key data response run raises => ?_, fun key response run raises => ?_,
    fun key response run raises => ?_, fun start response run raises => ?_⟩
  · exact request_of_raises opened run raises _
  · refine ⟨_, request_of_raises opened run raises _, classified_unlessMissing trouble fun same => ?_⟩
    cases congrArg Report.code (Except.error.inj same)
  · exact ⟨_, request_of_raises opened run raises _, classified_unlessMissing trouble nofun⟩
  · refine (request_of_raises opened run raises _).trans ?_
    rw [Settings.getD_given?]

/-- A bucket with a client, whose service meets requests with the given troubles. -/
def refused (troubles : List (String × Trouble)) : Bucket where
  settings := { name := "logs" }
  isOpen := true
  service := { failing := .ofList troubles }

/-- Every request is refused in another way. -/
def strained : Bucket :=
  refused [("put_object", .ofCode (.text "AccessDenied")), ("get_object", .ofCode (.int 404)),
    ("head_object", ⟨.raised .client "client error", some (.record [("Error", .text "404")])⟩),
    ("paginate", ⟨.raised .runtime "broken", none⟩)]

/-- A number is a code as well as its text is, but a code that stands in the place of the error cannot be read. -/
theorem troubles_answered_unless_garbled_strained :
    (∃ later, write "k" (.bytes [1]) strained =
        (.ok (.error (.writeFailed "k" (some (.raised .client "AccessDenied")))), later)) ∧
      (∃ later, read "k" strained = (.ok (.error (.blobNotFound "k")), later)) ∧
      (∃ text later, contains "k" strained = (.error (.raised .member text), later)) ∧
      ∃ later, list none strained = (.ok (.error (.readFailed "" (some (.raised .runtime "broken")))), later) := by
  have answered := troubles_answered_unless_garbled (t := strained) rfl
  refine ⟨?_, ?_, ?_, ?_⟩
  · exact ⟨_, (answered _ _).1 "k" [1] _ rfl (.refused _)⟩
  · obtain ⟨result, run, classified⟩ := (answered _ _).2.1 "k" _ rfl (.refused _)
    have carries : (Trouble.ofCode (.int 404)).Carries "404" := ⟨_, _, _, rfl, rfl, rfl, by rfl⟩
    exact ⟨_, classified.missing_iff.mpr ⟨"404", by decide, carries⟩ ▸ run⟩
  · obtain ⟨result, run, classified⟩ := (answered _ _).2.2.1 "k" _ rfl (.refused _)
    obtain ⟨text, interrupted⟩ := classified.interrupted_iff.mpr ⟨_, rfl, rfl, Or.inr ⟨_, rfl, nofun⟩⟩
    exact ⟨text, _, interrupted ▸ run⟩
  · exact ⟨_, (answered _ _).2.2.2 none _ rfl (.refused _)⟩

/-- A response that is no record interrupts both calls that look for a code in it. -/
theorem read_interrupted_by_response :
    (∃ text later, read "k" (refused [("get_object", ⟨.raised .client "client error", some (.text "oops")⟩)]) =
        (.error (.raised .member text), later)) ∧
      ∃ text later, contains "k" (refused [("head_object", ⟨.raised .client "client error", some (.text "oops")⟩)]) =
        (.error (.raised .member text), later) :=
  ⟨⟨_, _, rfl⟩, _, _, rfl⟩

end Blobs.Bucket
end Depot
