import Depot.Proofs.Connection.Scheme
import Depot.Proofs.Connection.Segments

namespace Depot.Connection

theorem read_of_no_scheme {text : String} (none_found : splitScheme? text.toList = none) :
    Parts.read text = .ok ⟨"", [], some text⟩ := by
  simp only [Parts.read, none_found]

theorem read_native {scheme : List Char} {text : String} {raw : List Char} (nonempty : scheme ≠ [])
    (split : splitScheme? text.toList = some (scheme, nativeMarker ++ raw)) :
    Parts.read text =
      .ok ⟨String.ofList scheme, [(nativeKey, String.ofList raw)], some (String.ofList raw)⟩ := by
  have marked : nativeMarker.isPrefixOf? (nativeMarker ++ raw) = some raw := by
    rw [List.isPrefixOf?_eq_some_iff_append_eq]
  unfold Parts.read
  rw [split]
  simp only [marked]

theorem read_parameters {scheme body : List Char} {text : String} (nonempty : scheme ≠ [])
    (split : splitScheme? text.toList = some (scheme, body)) (unmarked : ¬ nativeMarker <+: body) :
    Parts.read text =
      (readSegments (segments body)).map fun pairs => ⟨String.ofList scheme, pairs, none⟩ := by
  have missing : nativeMarker.isPrefixOf? body = none := by
    rw [Option.eq_none_iff_forall_ne_some]
    intro raw found
    rw [List.isPrefixOf?_eq_some_iff_append_eq] at found
    exact unmarked ⟨raw, found⟩
  unfold Parts.read
  rw [split]
  simp only [missing]

/-- Every accepted text has exactly one of the three readings. -/
theorem read_cases {text : String} {parts : Parts} (accepted : Parts.read text = .ok parts) :
    (splitScheme? text.toList = none ∧ parts = ⟨"", [], some text⟩) ∨
    (∃ scheme raw, scheme ≠ [] ∧ splitScheme? text.toList = some (scheme, nativeMarker ++ raw) ∧
      parts = ⟨String.ofList scheme, [(nativeKey, String.ofList raw)], some (String.ofList raw)⟩) ∨
    ∃ scheme body pairs, scheme ≠ [] ∧ splitScheme? text.toList = some (scheme, body) ∧
      ¬ nativeMarker <+: body ∧ readSegments (segments body) = .ok pairs ∧
      parts = ⟨String.ofList scheme, pairs, none⟩ := by
  cases split : splitScheme? text.toList with
  | none =>
    rw [read_of_no_scheme split] at accepted
    cases accepted
    exact Or.inl ⟨rfl, rfl⟩
  | some found =>
    obtain ⟨scheme, body⟩ := found
    by_cases empty : scheme = []
    · subst empty
      simp only [Parts.read, split] at accepted
      cases accepted
    by_cases marked : nativeMarker <+: body
    · obtain ⟨raw, rfl⟩ := marked
      rw [read_native empty split] at accepted
      cases accepted
      exact Or.inr (Or.inl ⟨scheme, raw, empty, rfl, rfl⟩)
    · rw [read_parameters empty split marked] at accepted
      obtain ⟨pairs, read, same⟩ := Outcome.map_eq_ok_iff.mp accepted
      exact Or.inr (Or.inr ⟨scheme, body, pairs, empty, rfl, marked, read, same.symm⟩)

/-- No scheme that is read holds a separator. -/
theorem clear_of_read {text : String} {parts : Parts} (accepted : Parts.read text = .ok parts) :
    ¬ separator <:+: parts.scheme.toList := by
  rcases read_cases accepted with ⟨_, rfl⟩ | ⟨scheme, raw, _, split, rfl⟩ | ⟨scheme, body, pairs, _, split, _, _, rfl⟩
  · simp [separator]
  · rw [String.toList_ofList]
    exact (eq_of_splitScheme? split).2
  · rw [String.toList_ofList]
    exact (eq_of_splitScheme? split).2

/-- What is read as parameters has a scheme without a separator, and valid keys. -/
theorem valid_of_read {text : String} {parts : Parts} (accepted : Parts.read text = .ok parts)
    (list : parts.native = none) :
    parts.scheme ≠ "" ∧ ¬ separator <:+: parts.scheme.toList ∧ ∀ pair ∈ parts.pairs, isKey pair.1 := by
  have clear := clear_of_read accepted
  rcases read_cases accepted with
    ⟨_, rfl⟩ | ⟨_, _, _, _, rfl⟩ | ⟨scheme, body, pairs, nonempty, _, _, read, rfl⟩
  · cases list
  · cases list
  · exact ⟨by simpa using nonempty, clear, isKey_of_readSegments read⟩

theorem toList_writePair (pair : String × String) :
    (writePair pair).toList = pair.1.toList ++ '=' :: pair.2.toList.flatMap escapeChar := by
  simp [writePair, toList_escape]

theorem writePair_bare {pair : String × String} (valid : isKey pair.1) :
    ∀ c ∈ (writePair pair).toList, isBare c := by
  intro c member
  rw [toList_writePair, List.mem_append, List.mem_cons] at member
  rcases member with inKey | rfl | inValue
  · exact (isKey_bare valid inKey).1
  · decide
  · obtain ⟨d, _, written⟩ := List.mem_flatMap.mp inValue
    rcases mem_escapeChar written with rfl | free
    · decide
    · rw [isReserved_iff, not_or, not_or, not_or] at free
      simp [isBare, free]

theorem readSegment_writePair {pair : String × String} (valid : isKey pair.1) :
    readSegment (writePair pair).toList = .ok pair := by
  have nonempty : pair.1.isEmpty = false := String.isEmpty_eq_false_iff.mpr (isKey_iff.mp valid).1
  have raw : String.ofList (pair.2.toList.flatMap escapeChar) = escape pair.2 := rfl
  unfold readSegment
  rw [toList_writePair, splitKey_append fun c member => (isKey_bare valid member).2]
  simp only [String.ofList_toList, nonempty, valid, Bool.not_true, Bool.false_eq_true, if_false, raw,
    unescape_escape, Except.map]

theorem readSegments_written {ss : List Segment} {pairs : List (String × String)}
    (texts : ss.map Segment.text = pairs.map fun pair => (writePair pair).toList)
    (valid : ∀ pair ∈ pairs, isKey pair.1) : readSegments ss = .ok pairs := by
  induction pairs generalizing ss with
  | nil =>
    rw [List.map_nil, List.map_eq_nil_iff] at texts
    rw [texts, readSegments]
  | cons pair more ih =>
    obtain ⟨s, rest, rfl, atHead, inTail⟩ := List.map_eq_cons_iff.mp texts
    obtain ⟨validHead, validTail⟩ := List.forall_mem_cons.mp valid
    have nonempty : s.text.isEmpty = false := by simp [atHead, toList_writePair]
    rw [readSegments, nonempty, atHead, readSegment_writePair validHead, ih inTail validTail]
    simp only [Bool.false_eq_true, if_false]

/-- The text behind the separator of a written list. -/
def writtenBody (pairs : List (String × String)) : List Char :=
  [';'].intercalate (pairs.map fun pair => (writePair pair).toList)

theorem toList_write (scheme : String) (pairs : List (String × String)) :
    (write scheme pairs none).toList = scheme.toList ++ (separator ++ writtenBody pairs) := by
  simp [write, writtenBody, separator, String.toList_intercalate, Function.comp_def]

theorem readSegments_writtenBody {pairs : List (String × String)} (valid : ∀ pair ∈ pairs, isKey pair.1) :
    readSegments (segments (writtenBody pairs)) = .ok pairs := by
  cases pairs with
  | nil => rfl
  | cons pair more =>
    refine readSegments_written (texts_segmentsFrom_join (by simp) ?_ 0) valid
    rintro part member
    obtain ⟨written, inside, rfl⟩ := List.mem_map.mp member
    exact writePair_bare (valid written inside)

theorem writtenBody_cons (pair : String × String) (more : List (String × String)) :
    ∃ rest, writtenBody (pair :: more) = pair.1.toList ++ '=' :: rest := by
  cases more with
  | nil => exact ⟨_, by rw [writtenBody, List.map_singleton, List.intercalate_singleton, toList_writePair]⟩
  | cons next more =>
    refine ⟨pair.2.toList.flatMap escapeChar ++ ([';'] ++ writtenBody (next :: more)), ?_⟩
    simp [writtenBody, toList_writePair]

/-- The marker of a service's own form is the key of the first parameter with its equals sign. -/
theorem nativeMarker_prefix_writtenBody {pairs : List (String × String)}
    (valid : ∀ pair ∈ pairs, isKey pair.1) :
    nativeMarker <+: writtenBody pairs ↔ ∃ pair, pairs.head? = some pair ∧ pair.1 = nativeKey := by
  cases pairs with
  | nil => simp [writtenBody, nativeMarker]
  | cons pair more =>
    obtain ⟨rest, body⟩ := writtenBody_cons pair more
    have noEquals (c : Char) (member : c ∈ pair.1.toList) : c ≠ '=' :=
      (isKey_bare (valid pair List.mem_cons_self) member).2
    rw [body, List.head?_cons]
    constructor
    · rintro ⟨after, same⟩
      -- Both sides have one equals sign after their keys, so that the keys agree.
      have split := splitKey_append noEquals rest
      have marked : splitKey (nativeKey.toList ++ '=' :: after) = (nativeKey.toList, some after) :=
        splitKey_append (by simp [nativeKey]) after
      rw [← same] at split
      have keys := congrArg Prod.fst (split.symm.trans marked)
      exact ⟨pair, rfl, String.toList_inj.mp keys⟩
    · rintro ⟨first, same, key⟩
      cases same
      exact ⟨rest, by rw [key]; rfl⟩

end Depot.Connection
