import StoryScript.Proofs.Boundaries
import StoryScript.Proofs.Targets

/-!
# Arranging the parts of a script

What a check finds, apart from the places, depends on an outline of the text: how many
parentheses of each kind there are, which forms are visited, which labels are declared, and
how many starts and unclosed lines of dialogue there are. Behind a text that leaves no
opener pending all of this just adds up. So text without parentheses is of no account
there, and two such parts of a script may change places.
-/

namespace StoryScript

structure Outline where
  openers : Nat := 0
  closers : Nat := 0
  forms : List Form := []
  labels : List String := []
  starts : Nat := 0
  unclosed : Nat := 0
  deriving DecidableEq, Repr

namespace Outline

def ofText (text : List Char) : Outline where
  openers := text.count '('
  closers := text.count ')'
  forms := (visits text).map (·.form)
  labels := declaredLabels text
  starts := (Recognizer.start.occurrences text).length
  unclosed := (unclosedDialogue text).length

instance : Append Outline where
  append a b :=
    ⟨a.openers + b.openers, a.closers + b.closers, a.forms ++ b.forms, a.labels ++ b.labels,
      a.starts + b.starts, a.unclosed + b.unclosed⟩

theorem append_eq (a b : Outline) :
    a ++ b =
      ⟨a.openers + b.openers, a.closers + b.closers, a.forms ++ b.forms, a.labels ++ b.labels,
        a.starts + b.starts, a.unclosed + b.unclosed⟩ := rfl

@[simp]
theorem empty_append (a : Outline) : {} ++ a = a := by
  simp [append_eq]

/-- What is found when a script has the given number of starts. -/
def startFindings : Nat → List Finding
  | 0 => [.missingStart]
  | 1 => []
  | _ + 2 => [.repeatedStart]

/-- What a check finds, in the order of the report. -/
def findings (a : Outline) : List Finding :=
  Finding.when (a.openers ≠ a.closers) (.unbalanced a.openers a.closers) ++
    a.forms.flatMap (Form.findings a.labels) ++ startFindings a.starts ++
    List.replicate a.unclosed .unquotedDialogue

theorem finding_balanceRemarks (text : List Char) :
    (balanceRemarks text).map (·.finding) =
      Finding.when (text.count '(' ≠ text.count ')')
        (.unbalanced (text.count '(') (text.count ')')) := by
  unfold balanceRemarks Finding.when
  by_cases equal : text.count '(' = text.count ')' <;> simp [equal]

theorem finding_windowRemarks (labels : List String) (text : List Char) :
    (windowRemarks labels text).map (·.finding) =
      ((visits text).map (·.form)).flatMap (Form.findings labels) := by
  rw [windowRemarks, List.map_flatMap, List.flatMap_map]
  simp only [Visit.remarks, List.map_map, Function.comp_def, List.map_id']

theorem finding_startRemarks (text : List Char) :
    (startRemarks text).map (·.finding) =
      startFindings (Recognizer.start.occurrences text).length := by
  unfold startRemarks
  rcases Recognizer.start.occurrences text with _ | ⟨first, _ | ⟨second, more⟩⟩ <;> rfl

theorem finding_unclosedDialogue (text : List Char) :
    ((unclosedDialogue text).map dialogueRemark).map (·.finding) =
      List.replicate (unclosedDialogue text).length .unquotedDialogue := by
  rw [List.map_map]
  exact List.map_const'

/-- The outline of a text has everything that a check needs but the places. -/
theorem findings_ofText (text : List Char) :
    (ofText text).findings = (keptRemarks text).map (·.finding) := by
  rw [keptRemarks, firstRemarks, List.map_append, List.map_append, List.map_append,
    finding_balanceRemarks, finding_windowRemarks, finding_startRemarks, finding_unclosedDialogue]
  rfl

/-- No scan and no search reaches over the end of a text that leaves no opener pending. -/
theorem ofText_append
    {first : List Char} (nonePending : (Pairing.ofText first).pending = [])
    (second : List Char) : ofText (first ++ second) = ofText first ++ ofText second := by
  have formsOfShifted : (visits (first ++ second)).map (·.form) =
      (visits first).map (·.form) ++ (visits second).map (·.form) := by
    rw [visits_append_of_nonePending nonePending, List.map_append, List.map_map]
    rfl
  rw [append_eq, ofText, formsOfShifted, declaredLabels_append nonePending,
    Recognizer.start_withoutClosers.occurrences_append nonePending,
    unclosedDialogue_append nonePending, List.count_append, List.count_append,
    List.length_append, List.length_map, List.length_map]
  simp only [ofText, unclosedDialogue_of_nonePending nonePending, List.length_nil, Nat.zero_add]

theorem ofText_of_plain {text : List Char} (plain : Plain text) : ofText text = {} := by
  have noOpeners : text.count '(' = 0 := List.count_eq_zero_of_not_mem plain.not_mem_opener
  have noClosers : text.count ')' = 0 := plain.balanced.1.symm.trans noOpeners
  have noLabels : declaredLabels text = [] := by
    rw [declaredLabels, Recognizer.label_withoutClosers.occurrences_of_plain plain]
    rfl
  rw [ofText, noOpeners, noClosers, visits_of_plain plain, noLabels,
    Recognizer.start_withoutClosers.occurrences_of_plain plain,
    unclosedDialogue_of_nonePending plain.balanced.nonePending]
  rfl

end Outline

/-! ### The order of labels -/

/-- Rules count labels and look for them, whatever their order. -/
theorem Keyword.rule_eq_of_perm
    {k : Keyword} {rule : Rule} (has : k.rule? = some rule) {labels labels' : List String}
    (same : labels.Perm labels') (args : List String) : rule labels args = rule labels' args := by
  cases k <;> simp only [Keyword.rule?, Option.some.injEq, reduceCtorEq] at has <;> subst has
  case label => simp only [Rule.label, same.count_eq]
  case jump => simp only [Rule.jump, same.mem_iff]
  case start => simp only [Rule.start, same.mem_iff]
  all_goals rfl

theorem Form.findings_eq_of_perm
    {labels labels' : List String} (same : labels.Perm labels') (form : Form) :
    form.findings labels = form.findings labels' := by
  unfold findings
  split
  · next k _ =>
    unfold keywordFindings
    congr 1
    split
    · next rule has => exact Keyword.rule_eq_of_perm has same form.args
    · rfl
  · rfl

theorem Outline.findings_append_comm (a b : Outline) :
    (a ++ b).findings.Perm (b ++ a).findings := by
  have labels : (a.labels ++ b.labels).Perm (b.labels ++ a.labels) := List.perm_append_comm
  have forms : ((a.forms ++ b.forms).flatMap (Form.findings (a.labels ++ b.labels))).Perm
      ((b.forms ++ a.forms).flatMap (Form.findings (b.labels ++ a.labels))) := by
    rw [funext (Form.findings_eq_of_perm labels)]
    exact List.perm_append_comm.flatMap_right _
  rw [append_eq, append_eq, findings, findings]
  dsimp only
  rw [Nat.add_comm a.openers, Nat.add_comm a.closers, Nat.add_comm a.starts,
    Nat.add_comm a.unclosed]
  exact ((forms.append_left _).append_right _).append_right _

/-! ### Reports -/

namespace Report

/-- What a report says, apart from the places: severities and messages in order. -/
def statements (r : Report) : List (Severity × String) :=
  r.diagnostics.map fun d => (d.severity, d.message)

theorem valid_eq_of_perm {r s : Report} (same : r.statements.Perm s.statements) :
    r.valid = s.valid := by
  have warnings : ∀ report : Report, report.valid = true ↔
      ∀ statement ∈ report.statements, statement.1 = .warning := by
    intro report
    rw [valid_iff, statements, List.forall_mem_map]
  rw [Bool.eq_iff_iff, warnings, warnings]
  exact forall_congr' fun statement => imp_congr_left same.mem_iff

end Report

/-- The report on a script within the size limit says what its outline says, and it says of no
declared label that it is undefined. -/
theorem Checker.check_statements
    (checker : Checker) (script uri : String)
    (withinLimit : (script.toList.length : Int) ≤ checker.maxScriptSize) :
    ∃ report, (checker.check script uri).value = .ok report ∧
      report.statements =
        (Outline.ofText script.toList).findings.map (fun f => (f.severity, f.message)) ∧
      ∀ name ∈ declaredLabels script.toList, ∀ f ∈ Finding.undefined name,
        ∀ d ∈ report.diagnostics, d.message ≠ f.message := by
  refine ⟨_, checker.check_eq script uri withinLimit, ?_, ?_⟩
  · rw [Report.statements, toList_reportAll_remarks, Outline.findings_ofText, List.map_map,
      List.map_map]
    rfl
  · intro name declared f isUndefined d held
    exact message_ne_undefined_of_declared declared isUndefined held

/-- Two texts that leave no opener pending make up a script in either order, and a check says
the same of both, up to the order of what it says. In particular the scripts are both valid
or both not, and in neither of them a label that one of the texts declares is reported as
undefined, whichever text uses it. -/
theorem Checker.check_append_comm
    (checker : Checker) (first second uri : String)
    (firstClosed : (Pairing.ofText first.toList).pending = [])
    (secondClosed : (Pairing.ofText second.toList).pending = [])
    (withinLimit : ((first ++ second).toList.length : Int) ≤ checker.maxScriptSize) :
    ∃ report swapped,
      (checker.check (first ++ second) uri).value = .ok report ∧
      (checker.check (second ++ first) uri).value = .ok swapped ∧
      report.statements.Perm swapped.statements ∧
      report.valid = swapped.valid ∧
      ∀ name, name ∈ declaredLabels first.toList ∨ name ∈ declaredLabels second.toList →
        ∀ f ∈ Finding.undefined name, ∀ d ∈ report.diagnostics ++ swapped.diagnostics,
          d.message ≠ f.message := by
  have withinLimit' : ((second ++ first).toList.length : Int) ≤ checker.maxScriptSize := by
    rw [String.toList_append, List.length_append, Nat.add_comm, ← List.length_append,
      ← String.toList_append]
    exact withinLimit
  obtain ⟨report, checked, said, defined⟩ := checker.check_statements _ uri withinLimit
  obtain ⟨swapped, checked', said', defined'⟩ := checker.check_statements _ uri withinLimit'
  rw [String.toList_append] at said said' defined defined'
  have same : report.statements.Perm swapped.statements := by
    rw [said, said', Outline.ofText_append firstClosed, Outline.ofText_append secondClosed]
    exact (Outline.findings_append_comm _ _).map _
  refine ⟨report, swapped, checked, checked', same, Report.valid_eq_of_perm same, ?_⟩
  rw [declaredLabels_append firstClosed] at defined
  rw [declaredLabels_append secondClosed] at defined'
  intro name declared f isUndefined d held
  rcases List.mem_append.mp held with held | held
  · exact defined name (List.mem_append.mpr declared) f isUndefined d held
  · exact defined' name (List.mem_append.mpr declared.symm) f isUndefined d held

/-- A jump and a start with a stray closer behind them, and the labels that they use; one of
the labels is declared twice. -/
theorem Checker.check_append_comm_labels_last :
    let first := "(start a)(jump b))"
    let second := "(label a)(label b) (label b)"
    let checker : Checker := {}
    (Pairing.ofText first.toList).pending = [] ∧ (Pairing.ofText second.toList).pending = [] ∧
    ((first ++ second).toList.length : Int) ≤ checker.maxScriptSize ∧
    declaredLabels second.toList = ["a", "b", "b"] ∧
    ∃ report swapped,
      (checker.check (first ++ second) "x").value = .ok report ∧
      (checker.check (second ++ first) "x").value = .ok swapped ∧
      report.statements.Perm swapped.statements ∧ report.valid = swapped.valid ∧
      ∀ f ∈ Finding.undefined "a", ∀ d ∈ report.diagnostics ++ swapped.diagnostics,
        d.message ≠ f.message := by
  intro first second checker
  have firstClosed : (Pairing.ofText first.toList).pending = [] := by decide +kernel
  have secondClosed : (Pairing.ofText second.toList).pending = [] := by decide +kernel
  have withinLimit : ((first ++ second).toList.length : Int) ≤ checker.maxScriptSize := by
    decide +kernel
  have labels : declaredLabels second.toList = ["a", "b", "b"] := by decide +kernel
  obtain ⟨report, swapped, checked, checked', same, valid, defined⟩ :=
    Checker.check_append_comm checker first second "x" firstClosed secondClosed withinLimit
  refine ⟨firstClosed, secondClosed, withinLimit, labels, report, swapped, checked, checked',
    same, valid, defined "a" (.inr ?_)⟩
  rw [labels]
  simp

/-- Text without parentheses may stand behind a text that leaves no opener pending, whatever
it says and whatever follows: the report says the same things in the same order, and the
validation counts as many forms. -/
theorem Checker.check_prose_inert
    (checker : Checker) (front prose back uri : String)
    (frontClosed : (Pairing.ofText front.toList).pending = [])
    (plain : Plain prose.toList)
    (withinLimit : ((front ++ prose ++ back).toList.length : Int) ≤ checker.maxScriptSize) :
    ∃ report without,
      (checker.check (front ++ prose ++ back) uri).value = .ok report ∧
      (checker.check (front ++ back) uri).value = .ok without ∧
      report.statements = without.statements ∧
      (checker.validate (front ++ prose ++ back).toList uri).formsSeen =
        (checker.validate (front ++ back).toList uri).formsSeen := by
  have same : Outline.ofText (front ++ prose ++ back).toList =
      Outline.ofText (front ++ back).toList := by
    rw [String.toList_append, String.toList_append, String.toList_append, List.append_assoc,
      Outline.ofText_append frontClosed, Outline.ofText_append plain.balanced.nonePending,
      Outline.ofText_of_plain plain, Outline.empty_append, Outline.ofText_append frontClosed]
  have withinLimit' : ((front ++ back).toList.length : Int) ≤ checker.maxScriptSize := by
    simp only [String.toList_append, List.length_append] at withinLimit ⊢
    omega
  obtain ⟨report, checked, said, _⟩ := checker.check_statements _ uri withinLimit
  obtain ⟨without, checked', said', _⟩ := checker.check_statements _ uri withinLimit'
  refine ⟨report, without, checked, checked', ?_, ?_⟩
  · rw [said, said', same]
  · rw [Checker.validate, Checker.validate, validate_eq, validate_eq]
    have forms := congrArg (fun a : Outline => a.forms.length) same
    simpa [Outline.ofText] using forms

/-- Words, quotes and line breaks between a form with a stray closer behind it and dialogue that
is never closed. -/
theorem Checker.check_prose_inert_before_unclosed :
    let front := "(say a))"
    let prose := "label b \"dialogue\r\n start "
    let back := "(dialogue c"
    let checker : Checker := {}
    (Pairing.ofText front.toList).pending = [] ∧ Plain prose.toList ∧
    ((front ++ prose ++ back).toList.length : Int) ≤ checker.maxScriptSize ∧
    ∃ report without,
      (checker.check (front ++ prose ++ back) "x").value = .ok report ∧
      (checker.check (front ++ back) "x").value = .ok without ∧
      report.statements = without.statements ∧
      (checker.validate (front ++ prose ++ back).toList "x").formsSeen =
        (checker.validate (front ++ back).toList "x").formsSeen := by
  intro front prose back checker
  have frontClosed : (Pairing.ofText front.toList).pending = [] := by decide +kernel
  have plain : Plain prose.toList := by decide +kernel
  have withinLimit : ((front ++ prose ++ back).toList.length : Int) ≤ checker.maxScriptSize := by
    decide +kernel
  exact ⟨frontClosed, plain, withinLimit,
    Checker.check_prose_inert checker front prose back "x" frontClosed plain withinLimit⟩

end StoryScript
