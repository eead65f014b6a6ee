import Depot.Text.Textual
import Mathlib.Data.List.Basic
import Mathlib.Tactic.Common

namespace Depot.Text

theorem ofPoints?_points (s : String) : ofPoints? (points s) = some s := by
  have each : (points s).mapM Point.char? = some s.toList := by
    rw [points]
    induction s.toList with
    | nil => rfl
    | cons c rest ih => rw [List.map_cons, List.mapM_cons, ih]; rfl
  rw [ofPoints?, each, Option.map_some, String.ofList_toList]

theorem points_of_ofPoints? {ps : List Point} {s : String} (whole : ofPoints? ps = some s) : points s = ps := by
  obtain ⟨chars, each, rfl⟩ := Option.map_eq_some_iff.mp whole
  rw [points, String.toList_ofList]
  clear whole
  induction ps generalizing chars with
  | nil =>
    cases each
    rfl
  | cons p rest ih =>
    rw [List.mapM_cons] at each
    cases p with
    | half code => cases each
    | whole c =>
      obtain ⟨others, more, same⟩ := Option.bind_eq_some_iff.mp (show (rest.mapM Point.char?).bind _ = _ from each)
      cases same
      rw [List.map_cons, ih _ more]

theorem encode_of_whole {ps : List Point} {s : String} (whole : ofPoints? ps = some s) :
    Textual.encode ps = .ok (Utf8.encode s) := by simp only [Textual.encode, whole]

theorem encode_of_broken {ps : List Point} (broken : ofPoints? ps = none) :
    Textual.encode ps = .error (halfFault ps) := by simp only [Textual.encode, broken]

@[simp] theorem encode_points (s : String) : Textual.encode (points s) = .ok (Utf8.encode s) :=
  encode_of_whole (ofPoints?_points s)

theorem exists_of_encode {ps : List Point} {data : Bytes} (encoded : Textual.encode ps = .ok data) :
    ∃ s, points s = ps ∧ Utf8.encode s = data := by
  cases read : ofPoints? ps with
  | some s =>
    cases (encode_of_whole read).symm.trans encoded
    exact ⟨s, points_of_ofPoints? read, rfl⟩
  | none => cases (encode_of_broken read).symm.trans encoded

end Depot.Text
