import Depot.Proofs.ConnectionString.Secrets
import Depot.Proofs.Outcome
import Depot.Settings.Server

namespace Depot.Settings

open ConnectionString Outcome

theorem isSome_given? (text : Option String) : (given? text).isSome = isGiven text := by
  cases text with
  | none => rfl
  | some s => by_cases empty : s = "" <;> simp [given?, isGiven, empty]

theorem getD_given? (text : Option String) : (given? text).getD "" = text.getD "" := by
  cases text with
  | none => rfl
  | some s => by_cases empty : s = "" <;> simp [given?, Option.filter, empty]

theorem getD_given?_ne_empty (text : Option String) {default : String} (some_default : default ≠ "") :
    (given? text).getD default ≠ "" := by
  cases text with
  | none => exact some_default
  | some s => by_cases empty : s = "" <;> simp [given?, Option.filter, empty, some_default]

theorem isGiven_given? (text : Option String) : isGiven (given? text) = isGiven text := by
  rw [isGiven, getD_given?, isGiven]

theorem isGiven_congr {text other : Option String} (same : text.map String.isEmpty = other.map String.isEmpty) :
    isGiven text = isGiven other := by
  cases text <;> cases other <;> simp_all [isGiven]

/-- Of the secrets of a bucket, only whether there is one is checked, and of the token of a session nothing. -/
theorem Bucket.check_secrets (b : Bucket) {secret token : Option String}
    (given : isGiven b.secret = isGiven secret) :
    ({ b with secret := secret, sessionToken := token } : Bucket).check = b.check := by
  simp only [Bucket.check, given]

theorem Bucket.blamed_secrets (b : Bucket) {secret token : Option String}
    (given : isGiven b.secret = isGiven secret) :
    SameEnd b.blamed ({ b with secret := secret, sessionToken := token } : Bucket).blamed := by
  unfold Bucket.blamed Bucket.make
  rw [Bucket.check_secrets b given]
  cases b.check with
  | ok => exact .success _ _
  | error => exact .failure _

variable {a b : ConnectionString}

theorem Bucket.sameEnd_ofConnectionString (alike : Alike a b) (gaps : SameGaps a b) (first : Folded a.folded)
    (second : Folded b.folded) : SameEnd (Bucket.ofConnectionString a) (Bucket.ofConnectionString b) := by
  have plain (key : String) (shown : ¬ IsSecret key) : b.get? key = a.get? key :=
    (alike.get? first second shown).symm
  have given : isGiven (a.get? "key") = isGiven (b.get? "key") :=
    isGiven_congr (gaps.get? alike first second (by decide))
  have same : isGiven (given? (a.get? "key")) = isGiven (given? (b.get? "key")) := by
    rw [isGiven_given?, isGiven_given?, given]
  have required : b.require "bucket" true true = a.require "bucket" true true := by
    rw [ConnectionString.require, ConnectionString.require, plain "bucket" (by decide), alike.scheme]
  unfold Bucket.ofConnectionString
  rw [required]
  cases a.require "bucket" true true with
  | error e => exact .failure e
  | ok name =>
    simp only [plain "profileName" (by decide), plain "region" (by decide), plain "keyId" (by decide),
      plain "serviceUrl" (by decide), ← alike.scheme, isSome_given? (ConnectionString.get? _ "key"), ← given]
    split_ifs with profile unpaired lost keyed doubled
    · exact Bucket.blamed_secrets _ rfl
    · exact .failure _
    · exact .failure _
    · exact .failure _
    · exact Bucket.blamed_secrets _ same
    · exact Bucket.blamed_secrets _ same

/-- Nothing is checked of a password. -/
theorem Server.blamed_secrets (port db : Option Int) (s : Server) (password : Option String) :
    SameEnd (s.blamed port db) (({ s with password } : Server).blamed port db) := by
  have unchecked : ({ s with password } : Server).check = s.check := rfl
  unfold Server.blamed Server.make
  rw [unchecked]
  cases s.check with
  | ok => exact .success _ _
  | error => exact .failure _

theorem Server.sameEnd_ofConnectionString (alike : Alike a b) (first : Folded a.folded)
    (second : Folded b.folded) : SameEnd (Server.ofConnectionString a) (Server.ofConnectionString b) := by
  have plain (key : String) (shown : ¬ IsSecret key) : b.get? key = a.get? key :=
    (alike.get? first second shown).symm
  unfold Server.ofConnectionString Server.integerParameter Server.sslParameter
  rw [plain "port" (by decide), plain "db" (by decide), plain "ssl" (by decide), plain "host" (by decide),
    plain "channelPrefix" (by decide)]
  exact .bind _ fun port => .bind _ fun db => .bind _ fun ssl => Server.blamed_secrets port db _ _

end Depot.Settings
