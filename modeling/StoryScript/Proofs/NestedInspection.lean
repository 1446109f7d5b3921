import StoryScript.Proofs.Visits

/-!
# Inspecting the content of every form again

An inspection makes one pass over its window. It could as well go into the content of
each form that it has checked, as a window of its own, and look for forms there: the
pairs inside a matched pair are those of its content, all of them close before it does,
and a collector refuses what it has been told before. Both ways collect the same.
-/

namespace StoryScript

namespace Inspection

/-- The part of `descend` from the character at `index` on, with the openers that are
pending there. -/
def descendFrom (i : Inspection) (text : List Char) (offset : Int) (index : Nat)
    (pending : List Nat) : Inspection :=
  if inside : index < text.length then
    if text[index] = '(' then i.descendFrom text offset (index + 1) (index :: pending)
    else if text[index] = ')' then
      match pending with
      | [] => i.descendFrom text offset (index + 1) []
      | opener :: others =>
        let p : Pair := ⟨opener, index⟩
        let checked := i.visit text.toArray offset p
        let nested := checked.descendFrom (p.content text.toArray) (offset + opener + 1) 0 []
        nested.descendFrom text offset (index + 1) others
    else i.descendFrom text offset (index + 1) pending
  else i
termination_by (text.length, text.length - index)
decreasing_by
  all_goals try exact Prod.Lex.right _ (by omega)
  apply Prod.Lex.left
  rw [Pair.content_toArray, List.length_take, List.length_drop]
  omega

/-- Checks all forms of a window and, after each one, its content as a window at the offset
where the content starts. -/
def descend (i : Inspection) (text : List Char) (offset : Int := 0) : Inspection :=
  i.descendFrom text offset 0 []

@[simp]
theorem labels_visit (text : Array Char) (offset : Int) (i : Inspection) (p : Pair) :
    (i.visit text offset p).labels = i.labels := by
  unfold visit
  split <;> rfl

theorem collector_visit (text : List Char) (offset : Int) (i : Inspection) (p : Pair) :
    (i.visit text.toArray offset p).collector =
      i.collector.reportAll ((p.visit? text).toList.flatMap (Visit.remarks i.labels offset)) := by
  cases read : Form.ofContent? (p.content text.toArray) with
  | none => simp [visit_of_blank _ _ _ read, Pair.visit?, read]
  | some form => simp [visit_of_form _ _ _ read, Pair.visit?, read]

/-- Where `descend` stands before the character at `index`: it has the pending openers of
the part that it has read, and `base` has been told what an inspection of that part tells. -/
structure Descending (base : Collector) (labels : List String) (text : List Char) (offset : Int)
    (index : Nat) (pending : List Nat) (i : Inspection) : Prop where
  bound : index ≤ text.length
  onStack : pending = (Pairing.ofText (text.take index)).pending
  labelled : i.labels = labels
  reported : i.collector = base.reportAll (windowRemarks labels (text.take index) offset)

namespace Descending

variable {base : Collector} {labels : List String} {text : List Char} {offset : Int}
  {index : Nat} {pending : List Nat} {i : Inspection}

theorem init (i : Inspection) (text : List Char) (offset : Int) :
    Descending i.collector i.labels text offset 0 [] i :=
  ⟨Nat.zero_le _, rfl, rfl, rfl⟩

/-- A character that closes nothing changes at most the stack. -/
theorem skip
    (descending : Descending base labels text offset index pending i) (inside : index < text.length)
    {next : List Nat}
    (onStack : next = (Pairing.ofText (text.take index ++ [text[index]])).pending)
    (same : pairs (text.take index ++ [text[index]]) = pairs (text.take index)) :
    Descending base labels text offset (index + 1) next i := by
  have read : text.take (index + 1) = text.take index ++ [text[index]] :=
    List.take_succ_eq_append_getElem inside
  have grown : pairs (text.take index ++ [text[index]]) = pairs (text.take index) ++ [] := by
    rw [same, List.append_nil]
  refine ⟨inside, by rwa [read], descending.labelled, ?_⟩
  rw [read, windowRemarks_append labels offset grown]
  simpa using descending.reported

theorem pairs_close
    {opener : Nat} {others : List Nat}
    (descending : Descending base labels text offset index (opener :: others) i)
    (inside : index < text.length) (isCloser : text[index] = ')') :
    text.take (index + 1) = text.take index ++ [')'] ∧
      pairs (text.take index ++ [')']) = pairs (text.take index) ++ [⟨opener, index⟩] := by
  constructor
  · rw [List.take_succ_eq_append_getElem inside, isCloser]
  · rw [pairs_closer descending.onStack.symm, List.length_take_of_le descending.bound]

/-- A closer that finds an opener adds what is reported of the form between them. -/
theorem close
    {opener : Nat} {others : List Nat}
    (descending : Descending base labels text offset index (opener :: others) i)
    (inside : index < text.length) (isCloser : text[index] = ')') :
    Descending base labels text offset (index + 1) others
      (i.visit text.toArray offset ⟨opener, index⟩) := by
  obtain ⟨read, grown⟩ := descending.pairs_close inside isCloser
  have unchanged : Pair.visit? (text.take index ++ [')']) ⟨opener, index⟩ =
      Pair.visit? text ⟨opener, index⟩ := by
    have reaches : index ≤ (text.take (index + 1)).length := by
      rw [List.length_take]
      omega
    have longer := visit?_append (p := ⟨opener, index⟩) reaches (text.drop (index + 1))
    rw [List.take_append_drop, read] at longer
    exact longer.symm
  refine ⟨inside, ?_, ?_, ?_⟩
  · rw [read, Pairing.ofText_closer descending.onStack.symm]
  · rw [labels_visit]
    exact descending.labelled
  · rw [collector_visit, read, windowRemarks_append labels offset grown,
      Collector.reportAll_append, ← descending.reported, descending.labelled]
    simp only [List.filterMap_cons, List.filterMap_nil, unchanged]
    cases Pair.visit? text ⟨opener, index⟩ <;> rfl

/-- The content of the form just closed has nothing new to report. -/
theorem nested
    {opener : Nat} {others : List Nat} {checked nested : Inspection}
    (descending : Descending base labels text offset (index + 1) others checked)
    (found : ⟨opener, index⟩ ∈ pairs (text.take (index + 1)))
    (sameLabels : nested.labels = labels)
    (descended : nested.collector = checked.collector.reportAll
      (windowRemarks labels (Pair.content text.toArray ⟨opener, index⟩) (offset + opener + 1))) :
    Descending base labels text offset (index + 1) others nested := by
  refine ⟨descending.bound, descending.onStack, sameLabels, ?_⟩
  rw [descended, ← descending.reported]
  apply Collector.reportAll_of_refuses
  intro r reported
  have sameContent : Pair.content (text.take (index + 1)).toArray ⟨opener, index⟩ =
      Pair.content text.toArray ⟨opener, index⟩ := by
    have window := Pair.content_window [] (text.take (index + 1)) (text.drop (index + 1))
      (matchedIn_of_mem_pairs found).closer_lt.le
    simpa [Pair.shift] using window.symm
  rw [← sameContent] at reported
  have before := windowRemarks_content_subset labels offset found reported
  rw [descending.reported, Collector.refuses_reportAll_iff]
  exact .inl (List.mem_map_of_mem before)

end Descending

theorem descendFrom_reports
    {base : Collector} {labels : List String} {text : List Char} {offset : Int}
    {index : Nat} {pending : List Nat} {i : Inspection}
    (descending : Descending base labels text offset index pending i) :
    (i.descendFrom text offset index pending).labels = labels ∧
      (i.descendFrom text offset index pending).collector =
        base.reportAll (windowRemarks labels text offset) := by
  fun_induction descendFrom i text offset index pending generalizing base labels with
  | case1 i text offset index pending inside isOpener inductionHypothesis =>
      apply inductionHypothesis
      apply descending.skip inside
      · rw [isOpener, Pairing.ofText_opener, List.length_take_of_le descending.bound,
          descending.onStack]
      · rw [isOpener, pairs_opener]
  | case2 i text offset index inside notOpener isCloser inductionHypothesis =>
      apply inductionHypothesis
      apply descending.skip inside
      · rw [isCloser, Pairing.ofText_stray descending.onStack.symm]
      · rw [isCloser, pairs_stray descending.onStack.symm]
  | case3 i text offset index inside notOpener isCloser opener others p checked nested
      nestedHypothesis =>
      rename_i _ inductionHypothesis
      obtain ⟨read, grown⟩ := descending.pairs_close inside isCloser
      have closed := descending.close inside isCloser
      obtain ⟨sameLabels, descended⟩ := nestedHypothesis (Descending.init checked _ _)
      rw [closed.labelled] at sameLabels descended
      apply inductionHypothesis
      apply closed.nested _ sameLabels descended
      rw [read, grown]
      simp
  | case4 i text offset index pending inside notOpener notCloser inductionHypothesis =>
      apply inductionHypothesis
      apply descending.skip inside
      · rw [Pairing.ofText_other _ notOpener notCloser, descending.onStack]
      · rw [pairs_other _ notOpener notCloser]
  | case5 i text offset index pending outside =>
      have whole : text.take index = text := List.take_of_length_le (by omega)
      have reported := descending.reported
      rw [whole] at reported
      exact ⟨descending.labelled, reported⟩

/-- Going into the content of every form collects exactly what one pass collects, whatever
the collector holds before and whatever document it is over. Inside a matched pair the two
look at the same pairs: those of the content, shifted, are those found strictly inside. -/
theorem descend_collects_window (i : Inspection) (text : List Char) (offset : Int) :
    (i.descend text offset).collector = (i.window text offset).collector ∧
      ∀ p ∈ pairs text,
        (pairs (p.content text.toArray)).map (Pair.shift (p.opener + 1)) =
          (pairs text).filter fun q => p.opener < q.opener ∧ q.closer < p.closer := by
  constructor
  · rw [window_eq]
    exact (descendFrom_reports (Descending.init i text offset)).2
  · intro p found
    exact pairs_content (matchedIn_of_mem_pairs found)

/-- A form inside an opener that is never closed, behind a stray closer. -/
theorem descend_collects_window_unbalanced :
    let text := ")((say (bg x))".toList
    let i : Inspection := ⟨[], Collector.ofList (Document.ofText text), 0⟩
    (i.descend text).collector = (i.window text).collector ∧
      ⟨2, 13⟩ ∈ pairs text ∧
      (pairs (Pair.content text.toArray ⟨2, 13⟩)).map (Pair.shift 3) =
        (pairs text).filter fun q => 2 < q.opener ∧ q.closer < 13 := by
  have found : ⟨2, 13⟩ ∈ pairs ")((say (bg x))".toList := by decide +kernel
  obtain ⟨collected, nested⟩ := descend_collects_window
    ⟨[], Collector.ofList (Document.ofText ")((say (bg x))".toList), 0⟩ ")((say (bg x))".toList 0
  exact ⟨collected, found, nested _ found⟩

end Inspection

end StoryScript
