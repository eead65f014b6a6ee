import Depot.Proofs.ConnectionString.Reparse

namespace Depot.ConnectionString

open Connection

/-- What the builders make, from parameters or from a string in a service's own form. -/
inductive Built : ConnectionString → Prop
  | build {scheme : String} {parameters : Table String String} {cs : ConnectionString}
      (made : build scheme parameters = .ok cs) : Built cs
  | withParameter {key value : String} {cs next : ConnectionString} (built : Built cs)
      (made : withParameter key value cs = .ok next) : Built next
  | ofNative {scheme native : String} {cs : ConnectionString} (made : ofNative scheme native = .ok cs) : Built cs

theorem checkScheme_eq_ok_iff {scheme : String} : checkScheme scheme = .ok () ↔ scheme ≠ "" := by
  unfold checkScheme
  split
  · rename_i empty
    exact iff_of_false (fun run => nomatch run) fun given => given (String.isEmpty_iff.mp empty)
  · rename_i given
    exact iff_of_true rfl fun empty => given (String.isEmpty_iff.mpr empty)

/-- A key that can be given: it is a key, and not the marker in any letter case. -/
def Free (key : String) : Prop := isKey key ∧ Text.lower key ≠ nativeKey

theorem checkKey_eq_ok_iff {key : String} : checkKey key = .ok () ↔ Free key := by
  unfold checkKey Free
  by_cases valid : isKey key
  · by_cases marker : Text.lower key = nativeKey <;> simp [valid, marker]
  · simp [valid]

theorem free_of_forM {keys : List String} (checked : keys.forM checkKey = .ok ()) : ∀ key ∈ keys, Free key := by
  induction keys with
  | nil => exact List.forall_mem_nil _
  | cons key rest ih =>
    change (checkKey key >>= fun _ => rest.forM checkKey) = .ok () at checked
    obtain ⟨⟨⟩, first, others⟩ := Outcome.bind_eq_ok_iff.mp checked
    exact List.forall_mem_cons.mpr ⟨checkKey_eq_ok_iff.mp first, ih others⟩

/-- A list of parameters none of which can be taken for the marker. -/
structure Listed (cs : ConnectionString) : Prop where
  list : cs.native = none
  nonempty : cs.scheme ≠ ""
  free : ∀ pair ∈ cs.parameters, Free pair.1
  folded : Folded cs.folded

theorem listed_ofParts {scheme : String} {pairs : List (String × String)} (nonempty : scheme ≠ "")
    (free : ∀ pair ∈ pairs, Free pair.1) : Listed (ofParts scheme pairs none none) :=
  ⟨rfl, nonempty, valid_of_spelledPairs Free (spelling_foldPairs Free free), folded_foldPairs pairs⟩

theorem Built.cases {cs : ConnectionString} (built : Built cs) :
    Listed cs ∨ ∃ scheme raw, scheme ≠ "" ∧ cs = ofParts scheme [(nativeKey, raw)] (some raw) none := by
  induction built with
  | @build scheme parameters cs made =>
    obtain ⟨⟨⟩, given, made⟩ := Outcome.bind_eq_ok_iff.mp made
    obtain ⟨⟨⟩, checked, made⟩ := Outcome.bind_eq_ok_iff.mp made
    cases made
    have free := free_of_forM checked
    exact Or.inl (listed_ofParts (checkScheme_eq_ok_iff.mp given) fun pair member =>
      free pair.1 (List.mem_map_of_mem member))
  | @withParameter key value cs next built made ih =>
    rcases ih with listed | ⟨scheme, raw, -, rfl⟩
    · have plain : ¬ cs.isNative := by rw [isNative, listed.list]; exact Bool.false_ne_true
      rw [ConnectionString.withParameter, if_neg plain] at made
      obtain ⟨⟨⟩, checked, made⟩ := Outcome.bind_eq_ok_iff.mp made
      cases made
      refine Or.inl (listed_ofParts listed.nonempty fun pair member => ?_)
      rcases List.mem_append.mp member with before | added
      · exact listed.free pair before
      · rw [List.mem_singleton.mp added]
        exact checkKey_eq_ok_iff.mp checked
    · cases made
  | @ofNative scheme native cs made =>
    obtain ⟨⟨⟩, given, made⟩ := Outcome.bind_eq_ok_iff.mp made
    cases made
    exact Or.inr ⟨scheme, native, checkScheme_eq_ok_iff.mp given, rfl⟩

theorem Listed.parse_render {cs : ConnectionString} (listed : Listed cs)
    (clear : ¬ separator <:+: cs.scheme.toList) : parse cs.render = .ok { cs with text := cs.render } := by
  refine parse_render_of_valid listed.list listed.nonempty clear (fun pair member => (listed.free pair member).1)
    listed.folded fun first => ?_
  rw [keys, List.head?_map, Option.map_eq_some_iff] at first
  obtain ⟨pair, atHead, marker⟩ := first
  have free := (listed.free pair (List.mem_of_head? atHead)).2
  rw [marker] at free
  exact free rfl

theorem parse_render_ofNative {scheme raw : String} {cs : ConnectionString}
    (made : cs = ofParts scheme [(nativeKey, raw)] (some raw) none) (nonempty : scheme ≠ "")
    (clear : ¬ separator <:+: scheme.toList) : parse cs.render = .ok { cs with text := cs.render } := by
  have given : scheme.isEmpty = false := String.isEmpty_eq_false_iff.mpr nonempty
  have written : cs.render.toList = scheme.toList ++ (separator ++ (nativeMarker ++ raw.toList)) := by
    rw [made]
    simp [render, ofParts, write, given, separator, nativeMarker]
  have split := splitScheme?_append clear (nativeMarker ++ raw.toList)
  rw [← written] at split
  have some_char : scheme.toList ≠ [] := by simpa using nonempty
  refine parse_eq_ok_iff.mpr ⟨_, read_native some_char split, ?_⟩
  rw [String.ofList_toList, String.ofList_toList]
  subst made
  rfl

/-- What the builders make is read back as an equal string exactly if the separator does not stand in its
scheme. A scheme that is read never holds it. -/
theorem built_reads_back_iff {cs : ConnectionString} (built : Built cs) :
    (∃ again, parse cs.render = .ok again ∧ again.equals cs) ↔ ¬ separator <:+: cs.scheme.toList := by
  constructor
  · rintro ⟨again, reread, same⟩
    obtain ⟨parts, read, rfl⟩ := parse_eq_ok_iff.mp reread
    simp only [equals, Bool.and_eq_true, decide_eq_true_eq] at same
    rw [← same.1.1]
    exact clear_of_read read
  · intro clear
    have reread : parse cs.render = .ok { cs with text := cs.render } := by
      rcases built.cases with listed | ⟨scheme, raw, nonempty, made⟩
      · exact listed.parse_render clear
      · refine parse_render_ofNative made nonempty ?_
        rw [made] at clear
        exact clear
    exact ⟨_, reread, equals_of_same rfl rfl rfl⟩

/-- A list that is built, and then changed under another spelling of its key to a value of reserved characters. -/
theorem built_reads_back_respelled :
    ∃ first cs again, build "p" (.ofList [("Key", "a;b"), ("x", "\\=")]) = .ok first ∧
      first.withParameter "KEY" "100%;=" = .ok cs ∧ cs.parameters = [("Key", "100%;="), ("x", "\\=")] ∧
      parse cs.render = .ok again ∧ again.equals cs := by
  let first := ofParts "p" [("Key", "a;b"), ("x", "\\=")] none none
  let cs := ofParts "p" (first.parameters ++ [("KEY", "100%;=")]) none none
  have made : build "p" (.ofList [("Key", "a;b"), ("x", "\\=")]) = .ok first := by rfl
  have changed : first.withParameter "KEY" "100%;=" = .ok cs := by rfl
  obtain ⟨again, reread, same⟩ := (built_reads_back_iff (.withParameter (.build made) changed)).mpr (by decide)
  exact ⟨first, cs, again, made, changed, by rfl, reread, same⟩

/-- A scheme with a separator in it ends there when it is read, and what follows is no key. -/
theorem built_scheme_not_read_back :
    ∃ cs e, build "a://b" (.ofList [("x", "1")]) = .ok cs ∧ cs.render = "a://b://x=1" ∧
      parse cs.render = .error e ∧ e.code = .malformedSegment :=
  ⟨_, _, by rfl, by rfl, by rfl, by rfl⟩

end Depot.ConnectionString
