import Depot.Proofs.Settings.Checked

namespace Depot.Settings.Bucket

/-- What is said under a key; an empty text counts as absent. -/
def said (cs : ConnectionString) (key : String) : Option String := given? (cs.get? key)

inductive Rule where
  | named
  | paired
  | placed
  | placedOnce
  | longNamed
deriving DecidableEq, Repr

namespace Rule

/-- In the order in which they are gone through. -/
def all : List Rule := [named, paired, placed, placedOnce, longNamed]

/-- All rules but those for the name are for connection strings without a profile. -/
def Broken (cs : ConnectionString) : Rule → Prop
  | named => said cs "bucket" = none
  | paired => said cs "profileName" = none ∧ (said cs "keyId").isSome ≠ (said cs "key").isSome
  | placed => said cs "profileName" = none ∧ said cs "keyId" = none ∧ said cs "region" = none
  | placedOnce => said cs "profileName" = none ∧ (said cs "keyId").isSome ∧ (said cs "region").isSome ∧
      (said cs "serviceUrl").isSome
  | longNamed => ((said cs "bucket").getD "").length < 3

instance (cs : ConnectionString) : DecidablePred (Broken cs)
  | named => inferInstanceAs (Decidable (_ = _))
  | paired => inferInstanceAs (Decidable (_ ∧ _))
  | placed => inferInstanceAs (Decidable (_ ∧ _))
  | placedOnce => inferInstanceAs (Decidable (_ ∧ _))
  | longNamed => inferInstanceAs (Decidable (_ < _))

/-- A name that is missing is told from one that is empty, under the same code. -/
def failure (cs : ConnectionString) : Rule → Failure
  | named => if cs.get? "bucket" = none then .missingParameter "bucket" true (some cs.scheme)
      else .emptyParameter "bucket" true
  | paired => .conflictingParameters ["keyId", "key"] "both must be present, or neither"
  | placed => .missingParameter "region" true (some cs.scheme)
  | placedOnce => .conflictingParameters ["region", "serviceUrl"] "either one may be set, but not both"
  | longNamed => .invalidParameter "bucket" ((said cs "bucket").getD "") "bucket_name must be at least 3 characters"

def earlier (rule : Rule) : List Rule := all.takeWhile fun other => other ≠ rule

/-- The first rule that is broken, if there is one. -/
def firstBroken? (cs : ConnectionString) : Option Rule := all.find? fun rule => decide (rule.Broken cs)

variable {cs : ConnectionString}

theorem all_eq (rule : Rule) : ∃ later, all = rule.earlier ++ rule :: later := by
  cases rule <;> exact ⟨_, rfl⟩

theorem firstBroken?_eq_some_iff {rule : Rule} :
    firstBroken? cs = some rule ↔ rule.Broken cs ∧ ∀ other ∈ rule.earlier, ¬ other.Broken cs := by
  rw [firstBroken?, List.find?_eq_some_iff_append]
  constructor
  · rintro ⟨broken, before, after, order, kept⟩
    have unbroken : ∀ other ∈ before, ¬ other.Broken cs :=
      fun other member => of_decide_eq_false ((Bool.not_eq_true' _).mp (kept other member))
    have apart : ∀ other ∈ before, decide (other ≠ rule) = true := fun other member =>
      decide_eq_true fun same => unbroken other member (same ▸ of_decide_eq_true broken)
    have same : rule.earlier = before := by
      rw [earlier, order, List.takeWhile_append_of_pos apart, List.takeWhile_cons_of_neg (by simp), List.append_nil]
    exact ⟨of_decide_eq_true broken, same ▸ unbroken⟩
  · rintro ⟨broken, kept⟩
    obtain ⟨later, order⟩ := all_eq rule
    exact ⟨decide_eq_true broken, rule.earlier, later, order,
      fun other member => (Bool.not_eq_true' _).mpr (decide_eq_false (kept other member))⟩

theorem firstBroken?_eq_none_iff : firstBroken? cs = none ↔ ∀ rule : Rule, ¬ rule.Broken cs := by
  have listed (rule : Rule) : rule ∈ all := by cases rule <;> decide
  rw [firstBroken?, List.find?_eq_none]
  exact ⟨fun kept rule broken => kept rule (listed rule) (decide_eq_true broken),
    fun kept rule _ broken => kept rule (of_decide_eq_true broken)⟩

theorem eq_longNamed_of_code {rule : Rule} (code : (rule.failure cs).code = .invalidParameter) :
    rule = .longNamed := by
  cases rule with
  | named =>
    rw [failure] at code
    split_ifs at code <;> cases code
  | longNamed => rfl
  | _ => cases code

end Rule

/-- What is said, apart from keys beside a profile and from a service address without keys. -/
def stated (cs : ConnectionString) : Bucket where
  name := (said cs "bucket").getD ""
  region := said cs "region"
  endpoint := if said cs "profileName" = none ∧ (said cs "keyId").isSome then said cs "serviceUrl" else none
  keyId := if said cs "profileName" = none then said cs "keyId" else none
  secret := if said cs "profileName" = none then said cs "key" else none
  sessionToken := said cs "sessionToken"
  profile := said cs "profileName"

/-- A pair of keys is whole, a region and a service address exclude each other, and so do a profile and keys. -/
structure Coherent (b : Bucket) : Prop where
  whole : b.keyId.isSome = b.secret.isSome
  apart : ¬ (b.region.isSome ∧ b.endpoint.isSome)
  unmixed : b.profile.isSome → b.keyId = none ∧ b.secret = none

variable {cs : ConnectionString}

theorem stated_of_profile (profile : said cs "profileName" ≠ none) :
    stated cs =
      { name := (said cs "bucket").getD "", region := said cs "region", sessionToken := said cs "sessionToken",
        profile := said cs "profileName" } := by
  simp only [stated, profile, false_and, if_false]

theorem stated_of_keys (bare : said cs "profileName" = none) (keyed : (said cs "keyId").isSome) :
    stated cs =
      { name := (said cs "bucket").getD "", region := said cs "region", endpoint := said cs "serviceUrl",
        keyId := said cs "keyId", secret := said cs "key", sessionToken := said cs "sessionToken" } := by
  rw [stated, bare, if_pos ⟨rfl, keyed⟩, if_pos rfl, if_pos rfl]

theorem stated_of_keyless (bare : said cs "profileName" = none) (keyless : ¬ (said cs "keyId").isSome) :
    stated cs =
      { name := (said cs "bucket").getD "", region := said cs "region", keyId := said cs "keyId",
        secret := said cs "key", sessionToken := said cs "sessionToken" } := by
  rw [stated, bare, if_neg fun keyed => keyless keyed.2, if_pos rfl, if_pos rfl]

theorem coherent_stated (paired : ¬ Rule.paired.Broken cs) (once : ¬ Rule.placedOnce.Broken cs) :
    Coherent (stated cs) := by
  by_cases bare : said cs "profileName" = none
  · have whole : (said cs "keyId").isSome = (said cs "key").isSome :=
      not_not.mp fun unpaired => paired ⟨bare, unpaired⟩
    by_cases keyed : (said cs "keyId").isSome
    · rw [stated_of_keys bare keyed]
      exact ⟨whole, fun doubled => once ⟨bare, keyed, doubled⟩, nofun⟩
    · rw [stated_of_keyless bare keyed]
      exact ⟨whole, nofun, nofun⟩
  · rw [stated_of_profile bare]
    exact ⟨rfl, nofun, fun _ => ⟨rfl, rfl⟩⟩

/-- Coherent settings with positive limits are refused for a short name only. -/
theorem make_of_coherent {b : Bucket} (coherent : Coherent b)
    (filled : ∀ text ∈ [b.region, b.endpoint, b.keyId, b.secret], isGiven text = text.isSome)
    (limits : 0 < b.maxConcurrency ∧ 0 < b.connectTimeout ∧ 0 < b.readTimeout) :
    b.make = if b.name.length < 3 then .error (.raised .value "bucket_name must be at least 3 characters")
      else .ok b := by
  simp only [List.forall_mem_cons] at filled
  obtain ⟨region, endpoint, keyId, secret, -⟩ := filled
  have whole : isGiven b.keyId = isGiven b.secret := by rw [keyId, secret, coherent.whole]
  have apart : (isGiven b.region && isGiven b.endpoint) = false := by
    rw [region, endpoint, ← Bool.not_eq_true, Bool.and_eq_true]
    exact coherent.apart
  by_cases short : b.name.length < 3
  · rw [make, check, if_pos short, if_pos short]
    rfl
  · have checked : b.check = .ok () := by
      simp only [check, short, whole, apart, Int.not_le.mpr limits.1, Int.not_le.mpr limits.2.1,
        Int.not_le.mpr limits.2.2, if_false, ne_eq, not_true_eq_false, Bool.false_eq_true]
      rfl
    rw [make, checked, if_neg short]
    rfl

theorem isGiven_said (key : String) : isGiven (said cs key) = (said cs key).isSome := by
  rw [said, isGiven_given?, isSome_given?]

theorem isGiven_said_if {p : Prop} [Decidable p] (key : String) :
    isGiven (if p then said cs key else none) = (if p then said cs key else none).isSome := by
  split_ifs
  · exact isGiven_said key
  · rfl

/-- Whatever the name is: only the name can be wrong with the settings. -/
theorem make_stated (paired : ¬ Rule.paired.Broken cs) (once : ¬ Rule.placedOnce.Broken cs) (name : String) :
    ({ stated cs with name } : Bucket).make = if name.length < 3
      then .error (.raised .value "bucket_name must be at least 3 characters") else .ok { stated cs with name } := by
  obtain ⟨whole, apart, unmixed⟩ := coherent_stated paired once
  have limits : (0 : Int) < 10 ∧ (0 : Int) < 5 ∧ (0 : Int) < 60 := by decide
  refine make_of_coherent ⟨whole, apart, unmixed⟩ ?_ limits
  simp only [List.forall_mem_cons]
  exact ⟨isGiven_said _, isGiven_said_if _, isGiven_said_if _, isGiven_said_if _, List.forall_mem_nil _⟩

theorem blamed_stated (paired : ¬ Rule.paired.Broken cs) (once : ¬ Rule.placedOnce.Broken cs) :
    (stated cs).blamed =
      if Rule.longNamed.Broken cs then .error (Rule.longNamed.failure cs) else .ok (stated cs) := by
  rw [blamed, make_stated paired once (stated cs).name]
  by_cases short : Rule.longNamed.Broken cs
  · rw [if_pos short, if_pos (show (stated cs).name.length < 3 from short)]
    rfl
  · rw [if_neg short, if_neg (show ¬ (stated cs).name.length < 3 from short)]

/-- What the rules come to. -/
def judged (cs : ConnectionString) : Outcome Bucket :=
  (Rule.firstBroken? cs).elim (.ok (stated cs)) fun rule => .error (rule.failure cs)

theorem judged_eq_ok_iff {b : Bucket} : judged cs = .ok b ↔ Rule.firstBroken? cs = none ∧ stated cs = b := by
  unfold judged
  cases Rule.firstBroken? cs <;> simp

theorem judged_eq_error_iff {e : Failure} :
    judged cs = .error e ↔ ∃ rule, Rule.firstBroken? cs = some rule ∧ rule.failure cs = e := by
  unfold judged
  cases Rule.firstBroken? cs <;> simp

theorem judged_of_broken (rule : Rule) (broken : rule.Broken cs)
    (kept : ∀ other ∈ rule.earlier, ¬ other.Broken cs) : judged cs = .error (rule.failure cs) :=
  judged_eq_error_iff.mpr ⟨rule, Rule.firstBroken?_eq_some_iff.mpr ⟨broken, kept⟩, rfl⟩

theorem blamed_eq_judged (named : ¬ Rule.named.Broken cs) (paired : ¬ Rule.paired.Broken cs)
    (placed : ¬ Rule.placed.Broken cs) (once : ¬ Rule.placedOnce.Broken cs) : (stated cs).blamed = judged cs := by
  have kept : ∀ rule ∈ [Rule.named, .paired, .placed, .placedOnce], ¬ rule.Broken cs := by
    simp only [List.forall_mem_cons]
    exact ⟨named, paired, placed, once, List.forall_mem_nil _⟩
  rw [blamed_stated paired once]
  by_cases short : Rule.longNamed.Broken cs
  · rw [if_pos short]
    exact (judged_of_broken _ short kept).symm
  · have none_broken (rule : Rule) : ¬ rule.Broken cs := by cases rule <;> assumption
    rw [if_neg short]
    exact (judged_eq_ok_iff.mpr ⟨Rule.firstBroken?_eq_none_iff.mpr none_broken, rfl⟩).symm

theorem require_of_named (named : ¬ Rule.named.Broken cs) :
    cs.require "bucket" true true = .ok ((said cs "bucket").getD "") := by
  obtain ⟨name, there⟩ := Option.ne_none_iff_exists'.mp named
  obtain ⟨text, some_text⟩ := Option.filter_eq_some_iff.mp there
  have filled : name.isEmpty = false := Bool.not_eq_true' _ ▸ some_text
  simp only [ConnectionString.require, text, filled, there]
  rfl

theorem require_of_unnamed (unnamed : Rule.named.Broken cs) :
    cs.require "bucket" true true = .error (Rule.named.failure cs) := by
  unfold ConnectionString.require Rule.failure
  cases text : cs.get? "bucket" with
  | none => rfl
  | some name =>
    have empty : name.isEmpty = true := by
      simpa [Rule.Broken, said, given?, text, Option.filter] using unnamed
    rw [if_neg (Option.some_ne_none _)]
    simp only [empty]
    rfl

theorem ofConnectionString_eq_judged (cs : ConnectionString) : ofConnectionString cs = judged cs := by
  by_cases named : Rule.named.Broken cs
  · rw [ofConnectionString, require_of_unnamed named]
    exact (judged_of_broken _ named (List.forall_mem_nil _)).symm
  have nowhere : ((said cs "keyId").isNone && (said cs "region").isNone) = true ↔
      said cs "keyId" = none ∧ said cs "region" = none := by
    rw [Bool.and_eq_true, Option.isNone_iff_eq_none, Option.isNone_iff_eq_none]
  unfold ofConnectionString
  rw [require_of_named named]
  simp only []
  split_ifs with profile unpaired lost keyed doubled
  · -- The rules for keys and places are for connection strings without a profile.
    have some_profile : said cs "profileName" ≠ none := Option.isSome_iff_ne_none.mp profile
    have same := congrArg blamed (stated_of_profile some_profile)
    exact same.symm.trans (blamed_eq_judged named (fun broken => some_profile broken.1)
      (fun broken => some_profile broken.1) fun broken => some_profile broken.1)
  -- In each of the other cases there is none, and the rules that come before are kept.
  all_goals have bare : said cs "profileName" = none := Option.not_isSome_iff_eq_none.mp profile
  · exact (judged_of_broken .paired ⟨bare, unpaired⟩ (List.forall_mem_singleton.mpr named)).symm
  all_goals have paired : ¬ Rule.paired.Broken cs := fun broken => unpaired broken.2
  · exact (judged_of_broken .placed ⟨bare, nowhere.mp lost⟩
      (List.forall_mem_cons.mpr ⟨named, List.forall_mem_singleton.mpr paired⟩)).symm
  all_goals have placed : ¬ Rule.placed.Broken cs := fun broken => lost (nowhere.mpr broken.2)
  · rw [Bool.and_eq_true] at doubled
    exact (judged_of_broken .placedOnce ⟨bare, keyed, doubled⟩ (List.forall_mem_cons.mpr
      ⟨named, List.forall_mem_cons.mpr ⟨paired, List.forall_mem_singleton.mpr placed⟩⟩)).symm
  · rw [Bool.and_eq_true] at doubled
    have same := congrArg blamed (stated_of_keys bare keyed)
    exact same.symm.trans (blamed_eq_judged named paired placed fun broken => doubled broken.2.2)
  · have same := congrArg blamed (stated_of_keyless bare keyed)
    exact same.symm.trans (blamed_eq_judged named paired placed fun broken => keyed broken.2.1)

/-- The settings that a bucket is given are what is said, or the first broken rule is reported. A short name is blamed
only if there is nothing else to blame: with a longer one, the same settings pass every check. -/
theorem configured_by_first_broken_rule (cs : ConnectionString) :
    ofConnectionString cs = judged cs ∧
    (∀ e, ofConnectionString cs = .error e → e.code = .invalidParameter → e = Rule.longNamed.failure cs ∧
      ∀ name, 3 ≤ name.length → ({ stated cs with name } : Bucket).make = .ok { stated cs with name }) ∧
    ∀ b, ofConnectionString cs = .ok b → Coherent b ∧ b.make = .ok b := by
  rw [ofConnectionString_eq_judged]
  refine ⟨rfl, fun e failed code => ?_, fun b made => ?_⟩
  · obtain ⟨rule, first, rfl⟩ := judged_eq_error_iff.mp failed
    obtain rfl := Rule.eq_longNamed_of_code code
    obtain ⟨-, kept⟩ := Rule.firstBroken?_eq_some_iff.mp first
    refine ⟨rfl, fun name long => ?_⟩
    rw [make_stated (kept _ (by decide)) (kept _ (by decide)), if_neg (Nat.not_lt.mpr long)]
  · obtain ⟨first, rfl⟩ := judged_eq_ok_iff.mp made
    have kept := Rule.firstBroken?_eq_none_iff.mp first
    have long : ¬ (stated cs).name.length < 3 := kept .longNamed
    exact ⟨coherent_stated (kept .paired) (kept .placedOnce),
      (make_stated (kept .paired) (kept .placedOnce) _).trans (if_neg long)⟩

/-- A service address stands in the place of a region, a short name is found when all else is right, and a missing
key is reported before it. -/
theorem configured_by_first_broken_rule_parts :
    (∃ b, ofConnectionString (.ofParts "aws.s3" [("bucket", "logs"), ("keyId", "i"), ("key", "k"),
        ("serviceUrl", "u")] none none) = .ok b ∧ Coherent b ∧ b.endpoint = some "u") ∧
      (∃ e, ofConnectionString (.ofParts "aws.s3" [("bucket", "ab"), ("region", "eu")] none none) = .error e ∧
        e = .invalidParameter "bucket" "ab" "bucket_name must be at least 3 characters") ∧
      ofConnectionString (.ofParts "aws.s3" [("bucket", "ab"), ("keyId", "i")] none none) =
        .error (.conflictingParameters ["keyId", "key"] "both must be present, or neither") := by
  refine ⟨?_, ?_, ?_⟩
  · obtain ⟨-, -, sound⟩ := configured_by_first_broken_rule
      (.ofParts "aws.s3" [("bucket", "logs"), ("keyId", "i"), ("key", "k"), ("serviceUrl", "u")] none none)
    exact ⟨_, by rfl, (sound _ (by rfl)).1, by rfl⟩
  · obtain ⟨-, blamed, -⟩ :=
      configured_by_first_broken_rule (.ofParts "aws.s3" [("bucket", "ab"), ("region", "eu")] none none)
    exact ⟨_, by rfl, (blamed _ (by rfl) (by rfl)).1⟩
  · exact (configured_by_first_broken_rule _).1.trans (by rfl)

end Depot.Settings.Bucket
