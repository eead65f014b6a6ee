import Depot.Blobs.Bucket
import Depot.Proofs.Blobs
import Depot.Proofs.Settings
import Mathlib.Data.List.Nodup

namespace Depot

namespace ObjectClient

variable {σ α : Type}

/-- The action succeeds, in a state that is ready for more and holds the given map. -/
def Ends (held : σ → String → Option Bytes) (ready : σ → Prop) (act : Action σ α) (s : σ) (result : α)
    (map : String → Option Bytes) : Prop :=
  ∃ s', act s = (.ok result, s') ∧ ready s' ∧ held s' = map

/-- The codes by which a missing object is reported. -/
def Absent (t : ObjectService.Trouble) : Prop := t.code = .ok "NoSuchKey" ∨ t.code = .ok "404"

/-- A service that keeps under each key of a bucket the data last put there, reports what is missing, deletes
the objects that it is given, a thousand at most, and lists every key once, on whatever pages. `ready` are the
states in which no request fails. -/
structure Keeps [ObjectClient σ] (bucket : String) (held : σ → String → Option Bytes) (ready : σ → Prop) :
    Prop where
  installed {s : σ} (start : ready s) : isInstalled s
  opened {s : σ} (start : ready s) (arguments : List (String × Value)) :
    Ends held ready (openSession arguments) s () (held s)
  configured {s : σ} (start : ready s) (arguments : List (String × Value)) :
    Ends held ready (configure arguments) s () (held s)
  entered {s : σ} (start : ready s) (arguments : List (String × Value)) :
    Ends held ready (enter arguments) s () (held s)
  put {s : σ} (start : ready s) (key : String) (data : Bytes) :
    Ends held ready (put bucket key data) s (.ok ()) (Function.update (held s) key (some data))
  get {s : σ} (start : ready s) {key : String} {data : Bytes} (there : held s key = some data) :
    Ends held ready (get bucket key) s (.ok data) (held s)
  get_missing {s : σ} (start : ready s) {key : String} (missing : held s key = none) :
    ∃ t, Absent t ∧ Ends held ready (ObjectClient.get bucket key) s (.error t) (held s)
  head {s : σ} (start : ready s) {key : String} {data : Bytes} (there : held s key = some data) :
    Ends held ready (head bucket key) s (.ok ()) (held s)
  head_missing {s : σ} (start : ready s) {key : String} (missing : held s key = none) :
    ∃ t, Absent t ∧ Ends held ready (ObjectClient.head bucket key) s (.error t) (held s)
  delete {s : σ} (start : ready s) {keys : List String} (some_key : keys ≠ []) (few : keys.length ≤ 1000) :
    ∃ errors, errors.isTruthy = false ∧
      Ends held ready (delete bucket keys) s (.ok errors) (withoutKeys (held s) keys)
  list {s : σ} (start : ready s) (first : Option String) :
    ∃ pages, Ends held ready (list bucket first) s (.ok pages) (held s) ∧ pages.flatten.Nodup ∧
      ∀ key, key ∈ pages.flatten ↔ (held s key).isSome ∧ (first.getD "").toList <+: key.toList

variable {held : σ → String → Option Bytes} {ready : σ → Prop}

theorem Ends.stay {act : Action σ α} {s : σ} {result : α} (start : ready s) (run : act s = (.ok result, s)) :
    Ends held ready act s result (held s) :=
  ⟨s, run, start, rfl⟩

theorem attempt_of_ok {act : Action σ (Except ObjectService.Trouble α)} {s s' : σ}
    {result : Except ObjectService.Trouble α} (run : act s = (.ok result, s')) :
    attempt act s = (.ok result, s') :=
  Action.recover_of_ok run

theorem Ends.attempt {act : Action σ (Except ObjectService.Trouble α)} {s : σ}
    {result : Except ObjectService.Trouble α} {map : String → Option Bytes}
    (ends : Ends held ready act s result map) : Ends held ready (attempt act) s result map := by
  obtain ⟨s', run, later⟩ := ends
  exact ⟨s', attempt_of_ok run, later⟩

end ObjectClient

namespace ObjectService

variable {α : Type} {size : Nat}

theorem chunks_nil (size : Nat) : chunks size ([] : List α) = [] := by
  rw [chunks]
  exact if_pos (Or.inl rfl)

theorem chunks_of_ne_nil (positive : 0 < size) {items : List α} (some_item : items ≠ []) :
    chunks size items = items.take size :: chunks size (items.drop size) := by
  have more : ¬ (items.isEmpty ∨ size = 0) := by
    rw [not_or, List.isEmpty_iff]
    exact ⟨some_item, Nat.ne_of_gt positive⟩
  rw [chunks, if_neg more]

theorem chunks_append {first : List α} (some_item : first ≠ []) (rest : List α) :
    chunks first.length (first ++ rest) = first :: chunks first.length rest := by
  rw [chunks_of_ne_nil (List.length_pos_iff.mpr some_item) (List.append_ne_nil_of_left_ne_nil some_item rest),
    List.take_left, List.drop_left]

theorem chunks_singleton (positive : 0 < size) (item : α) : chunks size [item] = [[item]] := by
  rw [chunks_of_ne_nil positive (List.cons_ne_nil _ _), List.take_of_length_le positive,
    List.drop_of_length_le positive, chunks_nil]

theorem flatten_chunks (positive : 0 < size) (items : List α) : (chunks size items).flatten = items := by
  fun_induction chunks size items with
  | case1 items done =>
    rcases done with none_left | zero
    · exact (List.isEmpty_iff.mp none_left).symm
    · exact absurd zero (Nat.ne_of_gt positive)
  | case2 items more ih => rw [List.flatten_cons, ih, List.take_append_drop]

/-- No piece is empty or too long. -/
theorem length_of_mem_chunks {items chunk : List α} (member : chunk ∈ chunks size items) :
    chunk ≠ [] ∧ chunk.length ≤ size := by
  fun_induction chunks size items with
  | case1 items done => exact absurd member List.not_mem_nil
  | case2 items more ih =>
    rw [not_or, List.isEmpty_iff] at more
    rcases List.mem_cons.mp member with rfl | later
    · refine ⟨fun nothing => ?_, List.length_take_le _ _⟩
      rcases List.take_eq_nil_iff.mp nothing with zero | empty
      · exact more.2 zero
      · exact more.1 empty
    · exact ih later

/-- Only the last piece may be shorter than the others. -/
theorem length_of_mem_dropLast_chunks {items chunk : List α} (member : chunk ∈ (chunks size items).dropLast) :
    chunk.length = size := by
  fun_induction chunks size items with
  | case1 items done => cases member
  | case2 items more ih =>
    by_cases last : chunks size (items.drop size) = []
    · rw [last] at member
      cases member
    · rw [List.dropLast_cons_of_ne_nil last] at member
      rcases List.mem_cons.mp member with rfl | later
      · -- There is another piece, so that more items are left than fit into this one.
        have left : items.drop size ≠ [] := fun nothing => last (by rw [nothing, chunks_nil])
        rw [Ne, List.drop_eq_nil_iff, Nat.not_le] at left
        exact List.length_take_of_le (Nat.le_of_lt left)
      · exact ih later

end ObjectService

namespace ObjectService

/-- No request is made to fail, deletions report no errors, and pages hold a key at least. -/
structure Working (s : ObjectService) : Prop where
  steady : s.failing = .empty
  clean : s.deleteErrors.isTruthy = false
  paged : 1 ≤ s.pageSize
  reachable : s.client = .ready

variable {s : ObjectService}

/-- A request that has been recorded, and what is kept after it. -/
def served (s : ObjectService) (call : Call) (objects : Store) : ObjectService :=
  { s with calls := s.calls ++ [call], objects }

theorem Working.served (working : Working s) (call : Call) (objects : Store) :
    Working (s.served call objects) :=
  ⟨working.steady, working.clean, working.paged, working.reachable⟩

theorem unlessFailing_of_working {α : Type} (working : Working s) (name : String)
    (answer : Action ObjectService (Except Trouble α)) : unlessFailing name answer s = answer s := by
  have steady : s.failing.get? name = none := by rw [working.steady, Table.get?_empty]
  rw [unlessFailing, Action.bind_state, steady]

theorem Working.request {α : Type} (working : Working s) {call : Call} {name : String}
    {answer : Action ObjectService (Except Trouble α)} {result : Except Trouble α} {map : String → Option Bytes}
    (ends : ObjectClient.Ends (fun s => s.objects.read?) Working answer (s.served call s.objects) result map) :
    ObjectClient.Ends (fun s => s.objects.read?) Working (do record call; unlessFailing name answer) s result
      map := by
  obtain ⟨later, run, done⟩ := ends
  exact ⟨later, (unlessFailing_of_working (working.served call s.objects) name answer).trans run, done⟩

theorem keeps_objects (bucket : String) :
    ObjectClient.Keeps bucket (fun s : ObjectService => s.objects.read?) Working where
  installed {s} working := by
    change decide (s.client ≠ .missing) = true
    rw [working.reachable]
    rfl
  opened {s} working arguments := by
    have fine : ¬ s.client = .sessionFails := by rw [working.reachable]; decide
    refine ⟨s.served (.session arguments) s.objects, ?_, working.served _ _, rfl⟩
    change (if s.client = .sessionFails then _ else _ : Action ObjectService Unit) _ = _
    rw [if_neg fine]
    rfl
  configured {s} working arguments := ⟨s.served (.configured arguments) s.objects, rfl, working.served _ _, rfl⟩
  entered {s} working arguments := by
    have fine : ¬ s.client = .entryFails := by rw [working.reachable]; decide
    refine ⟨(s.served (.client arguments) s.objects).served .entered s.objects, ?_,
      (working.served _ _).served _ _, rfl⟩
    change (if s.client = .entryFails then _ else _ : Action ObjectService Unit) _ = _
    rw [if_neg fine]
    rfl
  put {s} working key data :=
    working.request ⟨_, rfl, working.served _ _, funext fun key' => s.objects.read?_write key key' data⟩
  get {s} working key data there := by
    refine working.request (.stay (working.served _ _) ?_)
    rw [Action.bind_state, show (s.served _ s.objects).objects.read? key = some data from there]
    exact unlessFailing_of_working (working.served _ s.objects) _ _
  get_missing {s} working key missing := by
    refine ⟨.ofCode (.text "NoSuchKey"), Or.inl rfl, working.request (.stay (working.served _ _) ?_)⟩
    rw [Action.bind_state, show (s.served _ s.objects).objects.read? key = none from missing]
    rfl
  head {s} working key data there := by
    have inside : s.objects.contains key = true := by rw [Store.contains_eq_isSome, there]; rfl
    refine working.request (.stay (working.served _ _) ?_)
    change (if s.objects.contains key = true then _ else _ : Action ObjectService _) _ = _
    rw [if_pos inside]
    rfl
  head_missing {s} working key missing := by
    have outside : s.objects.contains key = false := by rw [Store.contains_eq_isSome, missing]; rfl
    refine ⟨.ofCode (.text "404"), Or.inr rfl, working.request (.stay (working.served _ _) ?_)⟩
    change (if s.objects.contains key = true then _ else _ : Action ObjectService _) _ = _
    rw [outside]
    rfl
  delete {s} working keys _ _ :=
    ⟨s.deleteErrors, working.clean, working.request ⟨_, rfl, working.served _ _,
      funext fun key => s.objects.read?_delete keys key⟩⟩
  list {s} working first := by
    have positive : 0 < s.pageSize.toNat := by have := working.paged; omega
    have laid : s.pages (first.getD "") =
        .ok (chunks s.pageSize.toNat (s.objects.keysUnder (first.getD ""))) := by
      have := working.paged
      exact if_neg (by omega)
    refine ⟨chunks s.pageSize.toNat (s.objects.keysUnder (first.getD "")), ?_, ?_⟩
    · refine working.request ((working.served _ _).request (.stay ((working.served _ _).served _ _) ?_))
      change (Except.ok (s.pages (first.getD "")), _) = _
      rw [laid]
    · rw [flatten_chunks positive]
      exact ⟨s.objects.nodup_keysUnder _, fun key => Store.mem_keysUnder⟩

end ObjectService

theorem withoutKeys_append (map : String → Option Bytes) (first second : List String) :
    withoutKeys map (first ++ second) = withoutKeys (withoutKeys map first) second := by
  funext key
  unfold withoutKeys
  by_cases early : key ∈ first
  · rw [if_pos (List.mem_append_left _ early), if_pos early, ite_self]
  · simp only [List.mem_append, early, false_or, if_false]

theorem Store.ordered_sorted (keys : List String) : (sorted keys).Pairwise (· ≤ ·) := by
  refine (List.pairwise_mergeSort (fun a b c first second => ?_) (fun a b => ?_) keys).imp of_decide_eq_true
  · rw [decide_eq_true_eq] at first second ⊢
    exact String.le_trans first second
  · rw [Bool.or_eq_true, decide_eq_true_eq, decide_eq_true_eq]
    exact String.le_total a b

/-- Two lists of the same keys, each once, are sorted alike. -/
theorem Store.sorted_congr {keys keys' : List String} (distinct : keys.Nodup) (distinct' : keys'.Nodup)
    (same : ∀ key, key ∈ keys ↔ key ∈ keys') : sorted keys = sorted keys' := by
  have permuted : (sorted keys).Perm (sorted keys') :=
    (List.mergeSort_perm keys _).trans
      (((List.perm_ext_iff_of_nodup distinct distinct').mpr same).trans (List.mergeSort_perm keys' _).symm)
  exact permuted.eq_of_pairwise (fun a b _ _ first second => String.le_antisymm first second) (ordered_sorted keys)
    (ordered_sorted keys')

namespace Blobs.Bucket

open ObjectClient (Ends)

variable {σ α β : Type}

/-- The bucket has the given name, and its service is ready and holds the given map. -/
structure Holds (name : String) (held : σ → String → Option Bytes) (ready : σ → Prop)
    (map : String → Option Bytes) (t : Bucket σ) : Prop where
  named : t.name = name
  ready : ready t.service
  held : held t.service = map

variable {name : String} {held : σ → String → Option Bytes} {ready : σ → Prop}
  {map after : String → Option Bytes} {t : Bucket σ}

/-- An operation on a bucket answers so, and the bucket then holds the given map. -/
def Gives (name : String) (held : σ → String → Option Bytes) (ready : σ → Prop) (act : Action (Bucket σ) α)
    (t : Bucket σ) (result : α) (map : String → Option Bytes) : Prop :=
  ∃ t', act t = (.ok result, t') ∧ Holds name held ready map t'

theorem onService_apply {act : Action σ α} {result : Attempt α} {service : σ}
    (run : act t.service = (result, service)) : onService act t = (result, { t with service }) :=
  Action.zoom_apply run

theorem Holds.onService (holds : Holds name held ready map t) {act : Action σ α} {result : α}
    (ends : Ends held ready act t.service result after) :
    Gives name held ready (onService act) t result after := by
  obtain ⟨s, run, prepared, kept⟩ := ends
  exact ⟨_, onService_apply run, holds.named, prepared, kept⟩

variable [ObjectClient σ]

theorem connect_of_open (opened : t.isOpen = true) : connect t = (.ok (.ok ()), t) := by
  rw [connect, Action.bind_state, if_pos opened]
  rfl

theorem Holds.openClient (holds : Holds name held ready map t) (keeps : ObjectClient.Keeps name held ready)
    (settings : Settings.Bucket) : Gives name held ready (openClient settings) t () map := by
  obtain ⟨u, session, first⟩ := holds.onService (keeps.opened holds.ready settings.sessionArguments)
  obtain ⟨v, configured, second⟩ := first.onService (keeps.configured first.ready settings.connectionArguments)
  have prepared : Holds name held ready (held v.service) { v with isPrepared := true } :=
    ⟨second.named, second.ready, rfl⟩
  obtain ⟨w, entered, last⟩ := prepared.onService (keeps.entered second.ready settings.clientArguments)
  refine ⟨w, Action.recover_of_ok ?_, last.named, last.ready, ?_⟩
  · exact (Action.bind_of_ok session).trans ((Action.bind_of_ok configured).trans
      ((Action.bind_of_ok rfl).trans entered))
  · rw [last.held, second.held, first.held, holds.held]

/-- A client is there already, or it is opened. -/
theorem Holds.connect (holds : Holds name held ready map t) (keeps : ObjectClient.Keeps name held ready) :
    Gives name held ready connect t (.ok ()) map := by
  by_cases opened : t.isOpen
  · exact ⟨t, connect_of_open opened, holds⟩
  · have closed : t.isOpen = false := Bool.not_eq_true _ ▸ opened
    have installed : (!ObjectClient.isInstalled t.service) = false := by rw [keeps.installed holds.ready]; rfl
    obtain ⟨u, run, later⟩ := holds.openClient keeps t.settings
    refine ⟨{ u with isOpen := true, log := u.log ++ [u.openedEntry] }, ?_, later.named, later.ready, later.held⟩
    rw [Bucket.connect, Action.bind_state, closed, installed]
    exact Action.reporting_of_ok (Action.bind_of_ok run)

/-- A request through a client that may have to be opened first. -/
theorem Holds.request (holds : Holds name held ready map t) (keeps : ObjectClient.Keeps name held ready)
    (act : String → Action σ (Except ObjectService.Trouble α))
    {answer : Except ObjectService.Trouble α → Attempt (Outcome β)} {result : Outcome β}
    (ends : ∀ s, ready s → held s = map →
      ∃ response, answer response = .ok result ∧ Ends held ready (act name) s response after) :
    Gives name held ready (request (fun t => act t.name) answer) t result after := by
  obtain ⟨u, connected, later⟩ := holds.connect keeps
  obtain ⟨response, decided, done⟩ := ends u.service later.ready later.held
  rw [← later.named] at done
  obtain ⟨v, run, last⟩ := later.onService done.attempt
  refine ⟨v, ?_, last⟩
  rw [Bucket.request, Action.onSuccess_of_ok connected, Action.bind_state, Action.bind_of_ok run, decided]
  rfl

theorem unlessMissing_of_absent {trouble : ObjectService.Trouble} (absent : ObjectClient.Absent trouble)
    (missing other : Outcome α) : unlessMissing trouble missing other = .ok missing := by
  unfold unlessMissing
  rcases absent with code | code <;> rw [code] <;> rfl

theorem batchAnswer_of_falsy (batch : List String) {errors : Value} (none_reported : errors.isTruthy = false) :
    batchAnswer batch (.ok errors) = .ok (.ok ()) := by
  simp only [batchAnswer, none_reported]
  rfl

section Operations

variable (holds : Holds name held ready map t) (keeps : ObjectClient.Keeps name held ready)
include holds keeps

theorem Holds.write (key : String) (data : Bytes) :
    Gives name held ready (Bucket.write key (.bytes data)) t (.ok ()) (Function.update map key (some data)) :=
  holds.request keeps (fun name => ObjectClient.put name key data) fun _ prepared same =>
    ⟨.ok (), rfl, same ▸ keeps.put prepared key data⟩

theorem Holds.read (key : String) :
    Gives name held ready (Bucket.read key) t ((map key).elim (.error (.blobNotFound key)) .ok) map := by
  refine holds.request keeps (fun name => ObjectClient.get name key) fun s prepared same => ?_
  subst same
  cases inside : held s key with
  | some data => exact ⟨.ok data, rfl, keeps.get prepared inside⟩
  | none =>
    obtain ⟨trouble, absent, ends⟩ := keeps.get_missing prepared inside
    exact ⟨.error trouble, unlessMissing_of_absent absent _ _, ends⟩

theorem Holds.contains (key : String) :
    Gives name held ready (Bucket.contains key) t (.ok (map key).isSome) map := by
  refine holds.request keeps (fun name => ObjectClient.head name key) fun s prepared same => ?_
  subst same
  cases inside : held s key with
  | some data => exact ⟨.ok (), rfl, keeps.head prepared inside⟩
  | none =>
    obtain ⟨trouble, absent, ends⟩ := keeps.head_missing prepared inside
    exact ⟨.error trouble, unlessMissing_of_absent absent _ _, ends⟩

/-- The keys of all pages, once they are sorted, are any list of the same keys, once that is sorted. An empty
text begins every key, so that nothing is lost when it is left out. -/
theorem Holds.list {start : Option String} {keys : List String} (distinct : keys.Nodup)
    (listed : ∀ key, key ∈ keys ↔ (map key).isSome ∧ (start.getD "").toList <+: key.toList) :
    Gives name held ready (Bucket.list start) t (.ok (Store.sorted keys)) map := by
  refine holds.request keeps (fun name => ObjectClient.list name (Settings.given? start))
    fun s prepared same => ?_
  subst same
  obtain ⟨pages, ends, once, found⟩ := keeps.list prepared (Settings.given? start)
  have same_keys (key : String) : key ∈ pages.flatten ↔ key ∈ keys := by
    rw [found, listed, Settings.getD_given?]
  refine ⟨.ok pages, ?_, ends⟩
  change (.ok (.ok (Store.sorted pages.flatten)) : Attempt (Outcome (List String))) = _
  rw [Store.sorted_congr once distinct same_keys]

theorem Holds.deleteBatches (batches : List (List String))
    (sized : ∀ batch ∈ batches, batch ≠ [] ∧ batch.length ≤ 1000) :
    Gives name held ready (Bucket.deleteBatches batches) t (.ok ()) (withoutKeys map batches.flatten) := by
  induction batches generalizing map t with
  | nil => exact ⟨t, rfl, by rwa [List.flatten_nil, withoutKeys_nil]⟩
  | cons batch rest ih =>
    obtain ⟨⟨some_key, few⟩, others⟩ := List.forall_mem_cons.mp sized
    obtain ⟨errors, falsy, done⟩ := keeps.delete holds.ready some_key few
    rw [holds.held, ← holds.named] at done
    obtain ⟨u, run, later⟩ := holds.onService done.attempt
    obtain ⟨v, more, last⟩ := ih later others
    refine ⟨v, ?_, by rwa [List.flatten_cons, withoutKeys_append]⟩
    rw [Bucket.deleteBatches, Action.bind_state, Action.bind_of_ok run, batchAnswer_of_falsy batch falsy,
      Action.onSuccess_of_ok (Action.ofAttempt_apply ..), more]

theorem Holds.delete (keys : List String) :
    Gives name held ready (Bucket.delete keys) t (.ok ()) (withoutKeys map keys) := by
  by_cases nothing : keys.isEmpty
  · rw [List.isEmpty_iff.mp nothing, withoutKeys_nil]
    exact ⟨t, rfl, holds⟩
  · obtain ⟨u, connected, later⟩ := holds.connect keeps
    obtain ⟨v, run, last⟩ := later.deleteBatches keeps (ObjectService.chunks batchSize keys)
      fun batch member => ObjectService.length_of_mem_chunks member
    rw [ObjectService.flatten_chunks (by decide)] at last
    refine ⟨v, ?_, last⟩
    rw [Bucket.delete, if_neg nothing, Action.onSuccess_of_ok connected, run]

end Operations

end Blobs.Bucket
end Depot
