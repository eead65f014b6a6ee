import Depot.Proofs.Connection.Grammar
import Depot.Proofs.ConnectionString.Folding
import Depot.Proofs.Text.Case
import Depot.Settings.Server
import Mathlib.Tactic.TFAE

namespace Depot

open Connection

/-- The same letters, each of them in whatever case. -/
def SpelledAlike (key other : String) : Prop := key.toList.map Char.toLower = other.toList.map Char.toLower

instance (key other : String) : Decidable (SpelledAlike key other) := inferInstanceAs (Decidable (_ = _))

theorem toNat_of_isKeyChar {c : Char} (keyChar : isKeyChar c) : c.toNat < 0x80 := by
  have below {high : Char} (le : c ≤ high) : c.toNat ≤ high.toNat := UInt32.le_iff_toNat_le.mp (Char.le_def.mp le)
  rcases isKeyChar_iff.mp keyChar with ⟨-, le⟩ | ⟨-, le⟩ | ⟨-, le⟩ | mark
  · exact (below le).trans_lt (by decide)
  · exact (below le).trans_lt (by decide)
  · exact (below le).trans_lt (by decide)
  · revert mark
    simp only [List.mem_cons, List.not_mem_nil, or_false]
    rintro (rfl | rfl | rfl) <;> decide

theorem lower_of_isKey {key : String} (valid : isKey key) :
    Text.lower key = String.ofList (key.toList.map Char.toLower) :=
  Text.lower_of_ascii fun c member => toNat_of_isKeyChar ((isKey_iff.mp valid).2 c member)

/-- Keys fold alike if they are the same up to the case of their letters. -/
theorem lower_eq_lower_iff {key other : String} (first : isKey key) (second : isKey other) :
    Text.lower key = Text.lower other ↔ SpelledAlike key other := by
  rw [lower_of_isKey first, lower_of_isKey second, String.ofList_inj, SpelledAlike]

theorem lower_mem_iff {text : String} {words : List String}
    (own : words.all fun word => word.toList.all Text.isOwnLower) :
    Text.lower text ∈ words ↔ ∃ word ∈ words, SpelledAlike text word := by
  have spelled (word : String) (member : word ∈ words) : Text.lower text = word ↔ SpelledAlike text word :=
    Text.lower_eq_iff (List.all_eq_true.mp own word member)
  constructor
  · exact fun member => ⟨_, member, (spelled _ member).mp rfl⟩
  · rintro ⟨word, member, alike⟩
    rwa [(spelled word member).mpr alike]

namespace Settings

variable {a b : ConnectionString}

theorem Bucket.ofConnectionString_congr (same : a.SameAnswers b) :
    Bucket.ofConnectionString a = Bucket.ofConnectionString b := by
  unfold Bucket.ofConnectionString ConnectionString.require
  simp only [same.values, same.scheme]

theorem Server.ofConnectionString_congr (same : a.SameAnswers b) :
    Server.ofConnectionString a = Server.ofConnectionString b := by
  unfold Server.ofConnectionString Server.integerParameter Server.sslParameter
  simp only [same.values]

end Settings

namespace ConnectionString

/-- A connection string whose keys are those that can be written in a text. -/
structure WellKeyed (cs : ConnectionString) : Prop where
  formed : Formed cs
  valid : ∀ key ∈ cs.keys, isKey key

/-- Whatever is read has such keys. -/
theorem wellKeyed_of_parse {text : String} {cs : ConnectionString} (accepted : parse text = .ok cs) :
    WellKeyed cs := by
  obtain ⟨parts, read, rfl⟩ := parse_eq_ok_iff.mp accepted
  have valid : ∀ pair ∈ parts.pairs, isKey pair.1 := by
    rcases read_cases read with ⟨-, rfl⟩ | ⟨scheme, raw, -, -, rfl⟩ | ⟨scheme, body, pairs, -, -, -, segmented, rfl⟩
    · exact List.forall_mem_nil _
    · exact List.forall_mem_singleton.mpr (by decide : isKey nativeKey)
    · exact isKey_of_readSegments segmented
  have spelled := valid_of_spelledPairs (fun key => isKey key) (spelling_foldPairs (fun key => isKey key) valid)
  exact ⟨⟨_, _, _, _, rfl⟩, List.forall_mem_map.mpr spelled⟩

variable {a b : ConnectionString}

theorem equals_adding (same : a.equals b) {key other : String} (alike : Text.lower key = Text.lower other)
    (value : String) : (a.adding key value).equals (b.adding other value) := by
  obtain ⟨scheme, -, values⟩ := equals_iff.mp same
  refine equals_iff.mpr ⟨scheme, rfl, fun fold => ?_⟩
  rw [foldedValues_adding, foldedValues_adding, Table.get?_put, Table.get?_put, alike, values]

/-- Two connection strings are equal exactly if they have the same scheme, the same native text and the same answers
under every key in whatever letter case, and exactly if the same is hashed of them. This is an equivalence, and it is
kept when the same parameter is set in both; equal strings are read as the same settings, or fail alike. -/
theorem equality_is_congruence (first : WellKeyed a) (second : WellKeyed b) :
    [(a.equals b : Prop), SameAnswers a b,
      a.scheme = b.scheme ∧ a.native = b.native ∧ ∀ key other, isKey key → isKey other → SpelledAlike key other →
        a.get? key = b.get? other,
      a.digest = b.digest].TFAE ∧
    Equivalence (fun a b : ConnectionString => (a.equals b : Prop)) ∧
    (a.equals b → a.native = none → ∀ key other value, Free key → Free other → SpelledAlike key other →
      ∃ x y, a.withParameter key value = .ok x ∧ b.withParameter other value = .ok y ∧ x.equals y) ∧
    (a.equals b → Settings.Bucket.ofConnectionString a = Settings.Bucket.ofConnectionString b ∧
      Settings.Server.ofConnectionString a = Settings.Server.ofConnectionString b) := by
  refine ⟨?tfae, equivalence_equals, ?set, ?settings⟩
  case tfae =>
    tfae_have 1 → 2 := .of_equals
    tfae_have 2 → 3 := by
      refine fun same => ⟨same.scheme, same.native, fun key other valid validToo alike => ?_⟩
      rw [same.values, get?, get?, (lower_eq_lower_iff valid validToo).mpr alike]
    tfae_have 3 → 1 := by
      rintro ⟨scheme, native, values⟩
      refine equals_of_answers first.formed.folded second.formed.folded scheme native fun key known => ?_
      have valid : isKey key := known.elim (first.valid key) (second.valid key)
      exact values key key valid valid rfl
    tfae_have 4 ↔ 1 := digest_eq_iff
    tfae_finish
  case set =>
    intro same list key other value free freeToo alike
    have listToo : b.native = none := (equals_iff.mp same).2.1.symm.trans list
    have folds := (lower_eq_lower_iff free.1 freeToo.1).mpr alike
    exact ⟨_, _, withParameter_of_free first.formed.folded list free value,
      withParameter_of_free second.formed.folded listToo freeToo value, equals_adding same folds value⟩
  case settings =>
    intro same
    have answers := SameAnswers.of_equals same
    exact ⟨Settings.Bucket.ofConnectionString_congr answers, Settings.Server.ofConnectionString_congr answers⟩

/-- Two strings with the same keys in another order and spelling. -/
theorem equality_is_congruence_respelled :
    ∃ a b x y, parse "aws.s3://bucket=logs;Region=eu" = .ok a ∧ parse "aws.s3://REGION=eu;Bucket=logs" = .ok b ∧
      a.equals b ∧ a.digest = b.digest ∧ a.withParameter "keyId" "k" = .ok x ∧ b.withParameter "KEYID" "k" = .ok y ∧
      x.equals y ∧ Settings.Bucket.ofConnectionString a = Settings.Bucket.ofConnectionString b := by
  let a := ofParts "aws.s3" [("bucket", "logs"), ("Region", "eu")] none (some "aws.s3://bucket=logs;Region=eu")
  let b := ofParts "aws.s3" [("REGION", "eu"), ("Bucket", "logs")] none (some "aws.s3://REGION=eu;Bucket=logs")
  have read : parse "aws.s3://bucket=logs;Region=eu" = .ok a := by rfl
  have readToo : parse "aws.s3://REGION=eu;Bucket=logs" = .ok b := by rfl
  obtain ⟨equal, -, set, settings⟩ := equality_is_congruence (wellKeyed_of_parse read) (wellKeyed_of_parse readToo)
  have same : a.equals b := by decide
  obtain ⟨x, y, left, right, after⟩ := set same rfl "keyId" "KEYID" "k" ⟨by decide, by decide⟩
    ⟨by decide, by decide⟩ (by decide)
  exact ⟨a, b, x, y, read, readToo, same, (equal.out 0 3).mp same, left, right, after, (settings same).1⟩

end ConnectionString
end Depot
