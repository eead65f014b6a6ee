import Depot.Proofs.Settings
import Mathlib.Tactic.SplitIfs

namespace Depot.Settings

/-- A sound value, or a failure of the configuration that stops a resolution. -/
inductive Settled {α : Type} (sound : α → Prop) : Outcome α → Prop
  | made {a : α} (checked : sound a) : Settled sound (.ok a)
  | halted {e : Failure} (area : e.area = .configuration) (critical : e.isCritical) : Settled sound (.error e)

theorem Settled.bind {α β : Type} {sound : α → Prop} {good : β → Prop} {x : Outcome α} {f : α → Outcome β}
    (settled : Settled sound x) (after : ∀ a, sound a → Settled good (f a)) : Settled good (x >>= f) := by
  cases settled with
  | made checked => exact after _ checked
  | halted area critical => exact .halted area critical

theorem Settled.sound_of_ok {α : Type} {sound : α → Prop} {x : Outcome α} {a : α} (settled : Settled sound x)
    (made : x = .ok a) : sound a := by
  subst made
  cases settled with
  | made checked => exact checked

variable (cs : ConnectionString)

theorem settled_require (key : String) (nonEmpty : Bool) :
    Settled (fun _ => True) (cs.require key true nonEmpty) := by
  unfold ConnectionString.require
  split
  · exact .halted rfl rfl
  · split_ifs
    · exact .halted rfl rfl
    · exact .made trivial

namespace Bucket

theorem settled_blamed (b : Bucket) : Settled (fun made => made.make = .ok made) b.blamed := by
  unfold blamed
  cases made : b.make with
  | error fault => exact .halted rfl rfl
  | ok checked =>
    obtain ⟨_, _, same⟩ := Outcome.bind_eq_ok_iff.mp made
    obtain rfl : b = checked := Except.ok.inj same
    exact .made made

theorem settled_ofConnectionString : Settled (fun made => made.make = .ok made) (ofConnectionString cs) := by
  have required := settled_require cs "bucket" true
  unfold ofConnectionString
  generalize cs.require "bucket" true true = bucket at required ⊢
  cases required with
  | halted area critical => exact .halted area critical
  | made =>
    simp only []
    split_ifs with profile unpaired lost keyed doubled
    · exact settled_blamed _
    · exact .halted rfl rfl
    · exact .halted rfl rfl
    · exact .halted rfl rfl
    · exact settled_blamed _
    · exact settled_blamed _

end Bucket

namespace Server

theorem settled_integerParameter (key : String) : Settled (fun _ => True) (integerParameter cs key) := by
  unfold integerParameter
  split
  · exact .made trivial
  · split
    · exact .made trivial
    · exact .halted rfl rfl

theorem settled_sslParameter : Settled (fun _ => True) (sslParameter cs) := by
  unfold sslParameter
  split
  · exact .made trivial
  · simp only []
    split_ifs
    · exact .made trivial
    · exact .made trivial
    · exact .halted rfl rfl

theorem settled_blamed (port db : Option Int) (s : Server) :
    Settled (fun made => made.make = .ok made) (s.blamed port db) := by
  unfold blamed
  cases made : s.make with
  | error fault => exact .halted rfl rfl
  | ok checked =>
    obtain ⟨_, _, same⟩ := Outcome.bind_eq_ok_iff.mp made
    obtain rfl : s = checked := Except.ok.inj same
    exact .made made

theorem settled_ofConnectionString : Settled (fun made => made.make = .ok made) (ofConnectionString cs) :=
  (settled_integerParameter cs "port").bind fun port _ => (settled_integerParameter cs "db").bind fun db _ =>
    (settled_sslParameter cs).bind fun _ _ => settled_blamed port db _

end Server
end Depot.Settings
