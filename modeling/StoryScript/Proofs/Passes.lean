import StoryScript.Proofs.Remarks

/-!
# The passes of a validation as lists of remarks

Each pass reports a list of remarks that can be written down from the text. A
validation is the run over the four lists in turn, and a check of a script within the
size limit is that run over a collector that holds nothing yet.
-/

namespace StoryScript

/-- A form that an inspection visits, with its parentheses. -/
structure Visit where
  pair : Pair
  form : Form
  deriving DecidableEq, Repr

def Pair.visit? (text : List Char) (p : Pair) : Option Visit :=
  (Form.ofContent? (p.content text.toArray)).map (⟨p, ·⟩)

/-- The forms of a window in the order in which they close; blank pairs are skipped. -/
def visits (text : List Char) : List Visit := (pairs text).filterMap (Pair.visit? text)

theorem mem_visits_iff (text : List Char) (v : Visit) :
    v ∈ visits text ↔
      v.pair ∈ pairs text ∧ Form.ofContent? (v.pair.content text.toArray) = some v.form := by
  simp only [visits, Pair.visit?, List.mem_filterMap, Option.map_eq_some_iff]
  constructor
  · rintro ⟨p, found, form, read, rfl⟩
    exact ⟨found, read⟩
  · rintro ⟨found, read⟩
    exact ⟨v.pair, found, v.form, read, rfl⟩

/-- The findings of a form at its span in a window at `offset`. -/
def Visit.remarks (labels : List String) (offset : Int) (v : Visit) : List Remark :=
  (v.form.findings labels).map fun f => ⟨offset + v.pair.opener, offset + v.pair.closer + 1, f⟩

def windowRemarks (labels : List String) (text : List Char) (offset : Int := 0) : List Remark :=
  (visits text).flatMap (Visit.remarks labels offset)

def balanceRemarks (text : List Char) : List Remark :=
  if text.count '(' = text.count ')' then []
  else [⟨0, 1, .unbalanced (text.count '(') (text.count ')')⟩]

/-- What is reported for the places where a text of the given length has a start. -/
def startRemarksAt (length : Nat) : List Nat → List Remark
  | [] => [⟨0, 1, .missingStart⟩]
  | [_] => []
  | _ :: second :: _ =>
    [⟨second, (min (second + startMarkWidth) length : Nat), .repeatedStart⟩]

def startRemarks (text : List Char) : List Remark :=
  startRemarksAt text.length ((Recognizer.start.occurrences text).map (·.start))

def dialogueRemark (o : Occurrence Unit) : Remark := ⟨o.start, o.stop, .unquotedDialogue⟩

def dialogueRemarks (text : List Char) : List Remark :=
  (Recognizer.unquotedDialogue.occurrences text).map dialogueRemark

/-- What the passes before the search for unquoted dialogue report, in order. -/
def firstRemarks (text : List Char) : List Remark :=
  balanceRemarks text ++ windowRemarks (declaredLabels text) text ++ startRemarks text

/-- Everything that a validation of a text reports, in order. -/
def remarks (text : List Char) : List Remark := firstRemarks text ++ dialogueRemarks text

namespace Inspection

theorem visit_of_blank
    (text : Array Char) (offset : Int) (i : Inspection) {p : Pair}
    (blank : Form.ofContent? (p.content text) = none) : i.visit text offset p = i := by
  rw [visit, blank]

theorem visit_of_form
    (text : Array Char) (offset : Int) (i : Inspection) {p : Pair} {form : Form}
    (read : Form.ofContent? (p.content text) = some form) :
    i.visit text offset p =
      { i with
        collector := i.collector.reportAll (Visit.remarks i.labels offset ⟨p, form⟩)
        formsSeen := i.formsSeen + 1 } := by
  rw [visit, read, Visit.remarks, Collector.reportAll, List.foldl_map]

/-- An inspection reports the findings of the forms it visits and counts those forms. -/
theorem window_eq (i : Inspection) (text : List Char) (offset : Int) :
    i.window text offset =
      { i with
        collector := i.collector.reportAll (windowRemarks i.labels text offset)
        formsSeen := i.formsSeen + (visits text).length } := by
  unfold window windowRemarks visits
  generalize pairs text = found
  induction found generalizing i with
  | nil => rfl
  | cons p rest inductionHypothesis =>
      rw [List.foldl_cons]
      cases read : Form.ofContent? (p.content text.toArray) with
      | none =>
          rw [visit_of_blank _ _ _ read, inductionHypothesis]
          simp [Pair.visit?, read]
      | some form =>
          rw [visit_of_form _ _ _ read, inductionHypothesis]
          simp [Pair.visit?, read, Collector.reportAll_append, Nat.add_assoc, Nat.add_comm 1]

end Inspection

namespace Collector

theorem checkBalance_eq (text : List Char) (c : Collector) :
    c.checkBalance text = c.reportAll (balanceRemarks text) := by
  by_cases equal : text.count '(' = text.count ')'
  · simp only [checkBalance, balanceRemarks, if_pos equal, reportAll_nil]
  · simp only [checkBalance, balanceRemarks, if_neg equal, reportAll_cons, reportAll_nil]

theorem checkStart_eq (text : List Char) (c : Collector) :
    c.checkStart text = c.reportAll (startRemarks text) := by
  unfold checkStart startRemarks
  rcases Recognizer.start.occurrences text with _ | ⟨first, _ | ⟨second, more⟩⟩ <;> rfl

theorem checkDialogue_eq (text : List Char) (c : Collector) :
    c.checkDialogue text = c.reportAll (dialogueRemarks text) := by
  rw [checkDialogue, dialogueRemarks, reportAll, List.foldl_map]
  rfl

end Collector

/-- A validation is one run over its remarks. -/
theorem validate_eq (text : List Char) (c : Collector) :
    validate text c =
      ⟨declaredLabels text, c.reportAll (remarks text), (visits text).length⟩ := by
  simp only [validate, Inspection.window_eq, Collector.checkBalance_eq, Collector.checkStart_eq,
    Collector.checkDialogue_eq, remarks, firstRemarks, Collector.reportAll_append, Nat.zero_add]

/-- The collector with which a check starts. -/
def Checker.collector (checker : Checker) (text : List Char) (uri : String) : Collector :=
  Collector.ofList (Document.ofText text uri) [] checker.source

theorem Collector.refuses_fresh (document : Document) (source : String) (r : Remark) :
    (ofList document [] source).refuses r = false :=
  Std.TreeSet.contains_emptyc

theorem Checker.refuses_collector (checker : Checker) (text : List Char) (uri : String)
    (r : Remark) : (checker.collector text uri).refuses r = false :=
  Collector.refuses_fresh _ _ r

/-- A script within the size limit gets a report, and its diagnostics are what the run over
the remarks of its text has collected. -/
theorem Checker.check_eq
    (checker : Checker) (script uri : String)
    (withinLimit : (script.toList.length : Int) ≤ checker.maxScriptSize) :
    (checker.check script uri).value =
      .ok ⟨((checker.collector script.toList uri).reportAll
        (remarks script.toList)).diagnostics.toList⟩ := by
  rw [check, if_neg (Int.not_lt.mpr withinLimit)]
  simp only [Checker.validate, validate_eq]
  rfl

end StoryScript
