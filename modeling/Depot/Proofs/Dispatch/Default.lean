import Depot.Dispatch.Bundled
import Depot.Proofs.Connection.Grammar
import Depot.Proofs.ConnectionString.Reparse
import Depot.Proofs.Dispatch.Decision
import Depot.Proofs.Settings.Checked

namespace Depot.Dispatch

open Connection

/-- The backend in memory of each kind. -/
def memoryBackend : Capability → Backend
  | .blobs => .memoryBlobs
  | .keyValue => .memoryKeyValue
  | .messenger => .memoryMessenger

/-- Who is responsible for a connection string, and what comes of it. -/
def bundledAnswer (capability : Capability) (cs : ConnectionString) : Outcome Backend :=
  if cs.scheme = "inmemory" then .ok (memoryBackend capability)
  else if cs.scheme = "aws.s3" ∧ capability = .blobs then
    (Settings.Bucket.ofConnectionString cs).map .bucket
  else if cs.scheme = "redis" ∧ capability = .messenger then
    (Settings.Server.ofConnectionString cs).map .listMessenger
  else .error (.unrecognizedPrefix cs.scheme capability.label 3)

theorem declaring_defaultRegistry (capability : Capability) (scheme : String) :
    defaultRegistry.declaring capability scheme =
      if scheme = "inmemory" then [memoryModule 0]
      else if scheme = "aws.s3" ∧ capability = .blobs then [bucketModule 1]
      else if scheme = "redis" ∧ capability = .messenger then [listModule 2]
      else [] := by
  have memory : (memoryModule 0).Declares capability scheme ↔ scheme = "inmemory" := by
    cases capability <;> simp [Module.Declares, memoryModule, Capabilities.has, memoryScheme]
  have bucket : (bucketModule 1).Declares capability scheme ↔ scheme = "aws.s3" ∧ capability = .blobs := by
    cases capability <;> simp [Module.Declares, bucketModule, Capabilities.has, Capabilities.only, bucketScheme]
  have list : (listModule 2).Declares capability scheme ↔ scheme = "redis" ∧ capability = .messenger := by
    cases capability <;> simp [Module.Declares, listModule, Capabilities.has, Capabilities.only, listScheme]
  simp only [Registry.declaring, defaultRegistry, List.filter_cons, List.filter_nil, decide_eq_true_eq, memory,
    bucket, list]
  -- No two of the three schemes are the same.
  split_ifs <;> simp_all

variable {nobody : Failure} {capability : Capability} {cs : ConnectionString}

theorem answer_of_single {m : Module} {answer : Outcome Backend} (decides : Decides (m.create capability cs))
    (unchanged : m.create capability cs = answer.map some) : (walk nobody capability cs [m]).answer = answer :=
  (walk_of_settles (.decided [] [] rfl (List.forall_mem_nil _) decides unchanged)).1

/-- Settings that are read end the walk, whether they come about or not. -/
theorem answer_of_settings {m : Module} {α : Type} {sound : α → Prop} {settings : Outcome α} {backend : α → Backend}
    (created : m.create capability cs = settings.map fun made => some (backend made))
    (settled : Settings.Settled sound settings) :
    (walk nobody capability cs [m]).answer = settings.map backend := by
  cases settled with
  | made => exact answer_of_single (created ▸ .backend _) created
  | halted area critical => exact answer_of_single (created ▸ .critical area critical) created

theorem answer_memoryModule (scheme : cs.scheme = "inmemory") :
    (walk nobody capability cs [memoryModule 0]).answer = .ok (memoryBackend capability) := by
  have created : (memoryModule 0).create capability cs = .ok (some (memoryBackend capability)) := by
    cases capability <;> simp [memoryModule, memoryScheme, memoryBackend, scheme]
  exact answer_of_single (created ▸ .backend _) created

theorem answer_bucketModule (scheme : cs.scheme = "aws.s3") :
    (walk nobody .blobs cs [bucketModule 1]).answer = (Settings.Bucket.ofConnectionString cs).map .bucket := by
  have created : (bucketModule 1).create .blobs cs =
      (Settings.Bucket.ofConnectionString cs).map fun made => some (.bucket made) := by
    simp [bucketModule, bucketScheme, scheme]
  exact answer_of_settings created (Settings.Bucket.settled_ofConnectionString cs)

theorem answer_listModule (scheme : cs.scheme = "redis") :
    (walk nobody .messenger cs [listModule 2]).answer =
      (Settings.Server.ofConnectionString cs).map .listMessenger := by
  have created : (listModule 2).create .messenger cs =
      (Settings.Server.ofConnectionString cs).map fun made => some (.listMessenger made) := by
    simp [listModule, listScheme, scheme]
  exact answer_of_settings created (Settings.Server.settled_ofConnectionString cs)

theorem resolve_defaultRegistry (capability : Capability) (cs : ConnectionString) :
    (defaultRegistry.resolve capability cs).answer = bundledAnswer capability cs := by
  rw [Registry.resolve, Registry.candidates_only, declaring_defaultRegistry, bundledAnswer]
  split_ifs with memory bucket list
  · exact answer_memoryModule memory
  · obtain ⟨scheme, rfl⟩ := bucket
    exact answer_bucketModule scheme
  · obtain ⟨scheme, rfl⟩ := list
    exact answer_listModule scheme
  · rfl

theorem resolveText_defaultRegistry (capability : Capability) (text : String) :
    (defaultRegistry.resolveText capability text).answer =
      ConnectionString.parse text >>= bundledAnswer capability := by
  unfold Registry.resolveText
  cases ConnectionString.parse text with
  | error e => rfl
  | ok cs => exact resolve_defaultRegistry capability cs

theorem memoryBackend_injective : Function.Injective memoryBackend := by
  intro kind other same
  cases kind <;> cases other <;> first | rfl | cases same

theorem bundledAnswer_eq_memory_iff {kind : Capability} :
    bundledAnswer capability cs = .ok (memoryBackend kind) ↔ kind = capability ∧ cs.scheme = "inmemory" := by
  unfold bundledAnswer
  split_ifs with memory
  · simp [memory, memoryBackend_injective.eq_iff, eq_comm]
  -- No backend that is made from settings is one in memory.
  · cases Settings.Bucket.ofConnectionString cs <;> cases kind <;> simp [Except.map, memoryBackend, memory]
  · cases Settings.Server.ofConnectionString cs <;> cases kind <;> simp [Except.map, memoryBackend, memory]
  · simp [memory]

/-- The settings that a backend was made from pass their own checks. -/
def Backend.Checked : Backend → Prop
  | .bucket settings => settings.make = .ok settings
  | .listMessenger settings => settings.make = .ok settings
  | _ => True

theorem checked_of_bundledAnswer {backend : Backend} (answered : bundledAnswer capability cs = .ok backend) :
    backend.Checked := by
  unfold bundledAnswer at answered
  split_ifs at answered
  · cases answered
    cases capability <;> trivial
  · obtain ⟨settings, made, rfl⟩ := Outcome.map_eq_ok_iff.mp answered
    exact (Settings.Bucket.settled_ofConnectionString cs).sound_of_ok made
  · obtain ⟨settings, made, rfl⟩ := Outcome.map_eq_ok_iff.mp answered
    exact (Settings.Server.settled_ofConnectionString cs).sound_of_ok made

/-- Every text has an answer. One that cannot be parsed is answered by what is wrong with it, any other as its
scheme and the capability say: by a fresh backend in memory, by a backend on the settings that are read off the text
or what is wrong with these, and in all other cases by the failure that names the scheme and the number of modules.
Backends in memory come of their own scheme only, a text without a scheme belongs to no module, and no backend holds
settings that its constructor would refuse. -/
theorem every_text_decided (capability : Capability) (text : String) :
    (defaultRegistry.resolveText capability text).answer =
        ConnectionString.parse text >>= bundledAnswer capability ∧
      (∀ kind, (defaultRegistry.resolveText capability text).answer = .ok (memoryBackend kind) ↔
        kind = capability ∧ ∃ cs, ConnectionString.parse text = .ok cs ∧ cs.scheme = "inmemory") ∧
      (¬ separator <:+: text.toList → (defaultRegistry.resolveText capability text).answer =
        .error (.unrecognizedPrefix "" capability.label 3)) ∧
      ∀ backend, (defaultRegistry.resolveText capability text).answer = .ok backend → backend.Checked := by
  rw [resolveText_defaultRegistry]
  refine ⟨rfl, fun kind => ?_, fun clear => ?_, fun backend answered => ?_⟩
  · rw [Outcome.bind_eq_ok_iff]
    simp only [bundledAnswer_eq_memory_iff]
    constructor
    · rintro ⟨cs, read, same, scheme⟩
      exact ⟨same, cs, read, scheme⟩
    · rintro ⟨same, cs, read, scheme⟩
      exact ⟨cs, read, same, scheme⟩
  · have read := read_of_no_scheme (splitScheme?_eq_none_iff.mpr clear)
    rw [ConnectionString.parse, read]
    rfl
  · obtain ⟨cs, -, answered⟩ := Outcome.bind_eq_ok_iff.mp answered
    exact checked_of_bundledAnswer answered

/-- A name in front of the keys that is empty counts as absent. The same scheme in capitals, or in a native form
without its parameters, is told as what it is, and so is a number out of range. -/
theorem every_text_decided_addresses :
    (∃ settings, (defaultRegistry.resolveText .messenger "redis://port=6380;channelPrefix=").answer =
        .ok (.listMessenger settings) ∧ settings = { port := 6380 } ∧ settings.make = .ok settings) ∧
      (defaultRegistry.resolveText .messenger "redis://port=99999").answer =
        .error (.invalidParameter "port" "99999" "port must be in [1, 65535], got 99999") ∧
      (defaultRegistry.resolveText .blobs "AWS.S3://bucket=logs").answer =
        .error (.unrecognizedPrefix "AWS.S3" "blob storage" 3) ∧
      (defaultRegistry.resolveText .blobs "aws.s3://native=bucket=logs").answer =
        .error (.missingParameter "bucket" true (some "aws.s3")) ∧
      (defaultRegistry.resolveText .keyValue "memory").answer =
        .error (.unrecognizedPrefix "" "key value storage" 3) := by
  have given := every_text_decided .messenger "redis://port=6380;channelPrefix="
  have large := every_text_decided .messenger "redis://port=99999"
  have capitals := every_text_decided .blobs "AWS.S3://bucket=logs"
  have native := every_text_decided .blobs "aws.s3://native=bucket=logs"
  have bare := every_text_decided .keyValue "memory"
  have made : (defaultRegistry.resolveText .messenger "redis://port=6380;channelPrefix=").answer =
      .ok (.listMessenger { port := 6380 }) := given.1.trans (by rfl)
  exact ⟨⟨_, made, rfl, given.2.2.2 _ made⟩, large.1.trans (by rfl), capitals.1.trans (by rfl),
    native.1.trans (by rfl), bare.2.2.1 (by decide)⟩

end Depot.Dispatch
