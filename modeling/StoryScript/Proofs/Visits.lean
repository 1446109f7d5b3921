import StoryScript.Proofs.Matching
import StoryScript.Proofs.Passes

/-!
# Visits in parts of a text

A form is visited in a part of a text as it is in the whole, at shifted indices. What
follows a text that leaves no opener pending is visited as if it stood alone, so a text may
be inspected chunk by chunk wherever no form reaches over a seam.
-/

namespace StoryScript

namespace Visit

def shift (n : Nat) (v : Visit) : Visit := ⟨v.pair.shift n, v.form⟩

theorem remarks_shift (labels : List String) (offset : Int) (n : Nat) (v : Visit) :
    (v.shift n).remarks labels offset = v.remarks labels (offset + n) := by
  simp only [remarks, shift, Pair.shift, Int.natCast_add, Int.add_assoc]

theorem shift_shift (m n : Nat) (v : Visit) : (v.shift n).shift m = v.shift (m + n) := by
  simp only [shift, Pair.shift, Nat.add_assoc]

end Visit

theorem visit?_append
    {text : List Char} {p : Pair} (inside : p.closer ≤ text.length) (more : List Char) :
    p.visit? (text ++ more) = p.visit? text := by
  have same := Pair.content_window [] text more inside
  simp only [Pair.shift, List.nil_append, List.length_nil, Nat.zero_add] at same
  rw [Pair.visit?, same, Pair.visit?]

/-- The forms already visited stay when a text goes on, and the new ones come after them. -/
theorem visits_append
    {text more : List Char} {found : List Pair}
    (grown : pairs (text ++ more) = pairs text ++ found) :
    visits (text ++ more) = visits text ++ found.filterMap (Pair.visit? (text ++ more)) := by
  rw [visits, grown, List.filterMap_append]
  congr 1
  apply List.filterMap_congr
  intro p member
  exact visit?_append (matchedIn_of_mem_pairs member).closer_lt.le more

theorem visit?_shift
    (front : List Char) {text : List Char} {p : Pair} (inside : p.closer ≤ text.length) :
    (p.shift front.length).visit? (front ++ text) =
      (p.visit? text).map (Visit.shift front.length) := by
  have same := Pair.content_window front text [] inside
  rw [List.append_nil] at same
  rw [Pair.visit?, same, Pair.visit?, Option.map_map]
  rfl

theorem visits_of_plain {text : List Char} (plain : Plain text) : visits text = [] := by
  rw [visits, pairs_of_plain plain, List.filterMap_nil]

/-- Behind a text that leaves no opener pending the visits go on at shifted indices. -/
theorem visits_append_of_nonePending
    {first : List Char} (nonePending : (Pairing.ofText first).pending = []) (second : List Char) :
    visits (first ++ second) = visits first ++ (visits second).map (Visit.shift first.length) := by
  rw [visits_append (pairs_append (.inr nonePending)), List.filterMap_map]
  congr 1
  rw [visits, List.map_filterMap]
  apply List.filterMap_congr
  intro p member
  exact visit?_shift first (matchedIn_of_mem_pairs member).closer_lt.le

/-- The pair around a balanced text is visited after all that stands in it. -/
theorem visits_enclose {inner : List Char} (balanced : Balanced inner) :
    visits ('(' :: (inner ++ [')'])) =
      (visits inner).map (Visit.shift 1) ++
        ((Form.ofContent? inner).map fun form => ⟨⟨0, inner.length + 1⟩, form⟩).toList := by
  have around : (⟨0, inner.length + 1⟩ : Pair).content ('(' :: (inner ++ [')'])).toArray =
      inner := by
    have split := Pair.content_split [] inner []
    simpa [Nat.add_comm] using split
  rw [visits, pairs_enclose balanced, List.filterMap_append, List.filterMap_map, visits,
    List.map_filterMap]
  congr 1
  · apply List.filterMap_congr
    intro p member
    have inside := (matchedIn_of_mem_pairs member).closer_lt.le
    have closes : (p.shift 1).closer ≤ ('(' :: inner).length := by
      simp only [Pair.shift, List.length_cons]
      omega
    rw [Function.comp_apply]
    exact (visit?_append closes [')']).trans (visit?_shift ['('] inside)
  · rw [List.filterMap_cons, Pair.visit?, around]
    cases Form.ofContent? inner <;> rfl

theorem shift_mem_visits
    (front inner back : List Char) {v : Visit} (visited : v ∈ visits inner) :
    v.shift front.length ∈ visits (front ++ (inner ++ back)) := by
  obtain ⟨found, read⟩ := (mem_visits_iff inner v).mp visited
  have matched := matchedIn_of_mem_pairs found
  apply (mem_visits_iff _ _).mpr
  constructor
  · apply mem_pairs_of_matchedIn
    exact ((Pair.matchedIn_window_iff front inner back v.pair).mp matched).1
  · rw [Visit.shift, Pair.content_window front inner back matched.closer_lt.le]
    exact read

/-- What an inspection of the content of a form reports has been reported, at the same
places, by the inspection that found the form. -/
theorem windowRemarks_content_subset
    (labels : List String) (offset : Int) {text : List Char} {p : Pair}
    (found : p ∈ pairs text) :
    windowRemarks labels (p.content text.toArray) (offset + p.opener + 1) ⊆
      windowRemarks labels text offset := by
  obtain ⟨before, inner, after, rfl, rfl, balanced⟩ :=
    (Pair.matchedIn_iff_split _ _).mp (matchedIn_of_mem_pairs found)
  rw [Pair.content_split]
  intro r reported
  obtain ⟨v, visited, reported⟩ := List.mem_flatMap.mp reported
  apply List.mem_flatMap.mpr
  refine ⟨v.shift (before.length + 1), ?_, ?_⟩
  · have inWhole := shift_mem_visits (before ++ ['(']) inner (')' :: after) visited
    simpa using inWhole
  · rw [Visit.remarks_shift]
    simpa [Int.add_assoc] using reported

theorem windowRemarks_append
    (labels : List String) (offset : Int) {text more : List Char} {found : List Pair}
    (grown : pairs (text ++ more) = pairs text ++ found) :
    windowRemarks labels (text ++ more) offset =
      windowRemarks labels text offset ++
        (found.filterMap (Pair.visit? (text ++ more))).flatMap (Visit.remarks labels offset) := by
  rw [windowRemarks, visits_append grown, List.flatMap_append, windowRemarks]

/-- Behind a text that leaves no opener pending the remarks go on at a later offset. -/
theorem windowRemarks_append_of_nonePending
    (labels : List String) {first : List Char}
    (nonePending : (Pairing.ofText first).pending = []) (second : List Char) (offset : Int) :
    windowRemarks labels (first ++ second) offset =
      windowRemarks labels first offset ++ windowRemarks labels second (offset + first.length) := by
  rw [windowRemarks, visits_append_of_nonePending nonePending, List.flatMap_append,
    List.flatMap_map, windowRemarks, windowRemarks]
  simp only [Visit.remarks_shift]

/-! ### Chunks of a text -/

namespace Inspection

theorem window_append_of_nonePending
    (i : Inspection) {first : List Char}
    (nonePending : (Pairing.ofText first).pending = []) (second : List Char) (offset : Int) :
    i.window (first ++ second) offset =
      (i.window first offset).window second (offset + first.length) := by
  rw [window_eq, windowRemarks_append_of_nonePending i.labels nonePending,
    visits_append_of_nonePending nonePending, Collector.reportAll_append, List.length_append,
    List.length_map, window_eq i first, window_eq, Nat.add_assoc]

/-- Inspects chunks one after the other with one inspection, each as a window of its own: the
first one at `base`, and every other one behind all chunks in front of it. -/
def windows (i : Inspection) (base : Int) : List (List Char) → Inspection
  | [] => i
  | chunk :: rest => (i.window chunk base).windows (base + chunk.length) rest

/-- Chunks may be inspected one after the other instead of the whole text that they make up,
whatever has been collected and counted before: the collector, with its diagnostics, and the
number of forms come out the same. Only the last chunk may leave an opener pending; any chunk
may have stray closers. -/
theorem windows_eq_window_flatten
    (i : Inspection) (base : Int) {chunks : List (List Char)}
    (closed : ∀ chunk ∈ chunks.dropLast, (Pairing.ofText chunk).pending = []) :
    i.windows base chunks = i.window chunks.flatten base := by
  induction chunks generalizing i base with
  | nil => rfl
  | cons chunk rest inductionHypothesis =>
      rw [windows, List.flatten_cons]
      cases rest with
      | nil => rw [windows, List.flatten_nil, List.append_nil]
      | cons next more =>
          rw [List.dropLast_cons_cons, List.forall_mem_cons] at closed
          obtain ⟨chunkClosed, restClosed⟩ := closed
          rw [inductionHypothesis _ _ restClosed, window_append_of_nonePending i chunkClosed]

/-- The first chunk has a stray closer, and the last one an opener that is never closed. The
collector holds a diagnostic before, and offsets reach beyond the document. -/
theorem windows_eq_window_flatten_unclosed :
    let chunks := [")(say a)".toList, [], "(jump b) ".toList, "(bg (label c)".toList]
    let held : Diagnostic := ⟨.warning, ⟨⟨0, 0⟩, ⟨0, 1⟩⟩, "at hand", "editor"⟩
    let i : Inspection := ⟨["c"], Collector.ofList (Document.ofText "short".toList) [held], 2⟩
    (∀ chunk ∈ chunks.dropLast, (Pairing.ofText chunk).pending = []) ∧
    (Pairing.ofText "(bg (label c)".toList).pending = [0] ∧
    i.windows 3 chunks = i.window ")(say a)(jump b) (bg (label c)".toList 3 ∧
    (i.windows 3 chunks).formsSeen = 5 := by
  intro chunks held i
  have closed : ∀ chunk ∈ chunks.dropLast, (Pairing.ofText chunk).pending = [] := by
    decide +kernel
  have same := windows_eq_window_flatten i 3 closed
  have joined : chunks.flatten = ")(say a)(jump b) (bg (label c)".toList := by decide +kernel
  rw [joined] at same
  refine ⟨closed, by decide +kernel, same, ?_⟩
  rw [same]
  decide +kernel

end Inspection

end StoryScript
