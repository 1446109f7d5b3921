import StoryScript.Proofs.ClosedForm

/-!
# What makes a script valid

A report is valid when it has no error. This is a property of the text alone: openers
and closers are equally many, there is exactly one start, no dialogue goes unquoted, and
every form between matched parentheses is accepted. No error is lost on the way: the
collector refuses only what it has been told in the same words, and an error and a
warning are never worded alike.
-/

namespace StoryScript

/-- Findings that leave a script valid. -/
def Tolerated (findings : List Finding) : Prop := ∀ f ∈ findings, f.severity = .warning

theorem tolerated_nil : Tolerated [] := by simp [Tolerated]

theorem tolerated_append (first second : List Finding) :
    Tolerated (first ++ second) ↔ Tolerated first ∧ Tolerated second := by
  simp only [Tolerated, List.mem_append, or_imp, forall_and]

theorem not_tolerated_error {f : Finding} (isError : f.severity = .error) : ¬ Tolerated [f] := by
  intro tolerated
  have isWarning := tolerated f (List.mem_singleton_self f)
  rw [isError] at isWarning
  cases isWarning

theorem tolerated_when_error
    {condition : Prop} [Decidable condition] {f : Finding} (isError : f.severity = .error) :
    Tolerated (Finding.when condition f) ↔ ¬ condition := by
  unfold Finding.when
  split
  · next holds => simp [holds, not_tolerated_error isError]
  · next fails => simp [fails, tolerated_nil]

theorem tolerated_when_warning
    {condition : Prop} [Decidable condition] {f : Finding} (isWarning : f.severity = .warning) :
    Tolerated (Finding.when condition f) := by
  intro g member
  rw [(Finding.mem_when.mp member).2]
  exact isWarning

/-- What the rule of a keyword asks of a form with enough arguments. -/
def Keyword.Asks (labels : List String) (form : Form) : Keyword → Prop
  | .label => labels.count (form.arg 0) ≤ 1
  | .dialogue =>
    isQuoted (form.arg 0) = true ∧
      (form.args.length = 3 →
        form.arg 1 = "speaker" ∧ allBlank (unquote (form.arg 2)).toList = false)
  | .after => form.arg 0 ∈ afterActions
  | .jump => form.arg 0 = "end" ∨ form.arg 0 ∈ labels
  | .start => form.arg 0 ∈ labels
  | .assign => isVariableName (form.arg 0) = true
  | _ => True

/-- A form that a valid script may hold: its keyword is known and, unless it is an operator,
has enough arguments that say what the keyword's rule asks. -/
structure Form.Accepted (labels : List String) (form : Form) : Prop where
  known : (∃ k : Keyword, k.name = form.keyword) ∨ form.keyword ∈ operators
  enough : ∀ k : Keyword, k.name = form.keyword → k.arity.least ≤ form.args.length
  asked : ∀ k : Keyword, k.name = form.keyword → k.Asks labels form

/-- A form has no finding but warnings exactly when it is accepted. -/
theorem Form.tolerated_findings (labels : List String) (form : Form) :
    Tolerated (form.findings labels) ↔ form.Accepted labels := by
  constructor
  · intro tolerated
    have noError : ∀ f, f.severity = .error → ¬ form.Draws labels f := by
      intro f isError draws
      have isWarning := tolerated f (mem_findings_iff.mpr draws)
      rw [isError] at isWarning
      cases isWarning
    have enough : ∀ k : Keyword, k.name = form.keyword → k.arity.least ≤ form.args.length := by
      intro k named
      exact Int.not_lt.mp fun few => noError _ rfl (.tooFewArgs k named few)
    refine ⟨?_, enough, ?_⟩
    · by_contra unknown
      rw [not_or, not_exists] at unknown
      exact noError _ rfl (.unknownKeyword unknown.1 unknown.2)
    · intro k named
      have hasTarget : (1 : Int) ≤ k.arity.least → form.args ≠ [] := by
        intro atLeastOne none
        have atMostNone := enough k named
        rw [none] at atMostNone
        exact absurd (atLeastOne.trans atMostNone) (by decide)
      cases k with
      | label =>
          exact Nat.not_lt.mp fun repeated =>
            noError _ rfl (.duplicateLabel named.symm repeated)
      | dialogue =>
          have quoted : isQuoted (form.arg 0) = true := by
            by_contra unquoted
            rw [Bool.not_eq_true] at unquoted
            exact noError _ rfl (.unquotedDialogue named.symm unquoted)
          refine ⟨quoted, fun three => ⟨?_, ?_⟩⟩
          · by_contra otherWord
            exact noError _ rfl (.misplacedSpeaker named.symm quoted three otherWord)
          · by_contra nobody
            rw [Bool.not_eq_false] at nobody
            exact noError _ rfl (.missingSpeaker named.symm quoted three nobody)
      | after =>
          by_contra unknown
          exact noError _ rfl (.unknownAction named.symm unknown)
      | jump =>
          by_contra neither
          obtain ⟨goesOn, undeclared⟩ := not_or.mp neither
          exact noError _ rfl
            (.undefinedJump named.symm (hasTarget (by decide)) goesOn undeclared)
      | start =>
          by_contra undeclared
          exact noError _ rfl (.undefinedStart named.symm (hasTarget (by decide)) undeclared)
      | assign =>
          by_contra invalid
          rw [Keyword.Asks, Bool.not_eq_true] at invalid
          exact noError _ rfl (.invalidVariableName named.symm invalid)
      | _ => trivial
  · intro accepted f found
    -- Every error of the table contradicts what an accepted form is asked for.
    cases mem_findings_iff.mp found with
    | tooManyArgs => rfl
    | invalidLabelName => rfl
    | emptyDialogue => rfl
    | unknownKeyword unnamed noOperator =>
        obtain ⟨k, named⟩ | operator := accepted.known
        · exact absurd named (unnamed k)
        · exact absurd operator noOperator
    | tooFewArgs k named few => exact absurd (accepted.enough k named) (Int.not_le.mpr few)
    | duplicateLabel named repeated =>
        exact absurd (accepted.asked .label named.symm) (Nat.not_le.mpr repeated)
    | unquotedDialogue named unquoted =>
        have quoted := (accepted.asked .dialogue named.symm).1
        rw [unquoted] at quoted
        cases quoted
    | misplacedSpeaker named quoted three otherWord =>
        exact absurd ((accepted.asked .dialogue named.symm).2 three).1 otherWord
    | missingSpeaker named quoted three nobody =>
        have somebody := ((accepted.asked .dialogue named.symm).2 three).2
        rw [nobody] at somebody
        cases somebody
    | unknownAction named unknown => exact absurd (accepted.asked .after named.symm) unknown
    | undefinedJump named hasTarget goesOn undeclared =>
        exact absurd (accepted.asked .jump named.symm) (not_or.mpr ⟨goesOn, undeclared⟩)
    | undefinedStart named hasTarget undeclared =>
        exact absurd (accepted.asked .start named.symm) undeclared
    | invalidVariableName named invalid =>
        have asked := accepted.asked .assign named.symm
        rw [Keyword.Asks, invalid] at asked
        cases asked

/-- A script in which a check finds no error. -/
structure ValidScript (text : List Char) : Prop where
  equallyMany : text.count '(' = text.count ')'
  oneStart : ∃! place, StartsAt text place
  quoted : ∀ place, ¬ UnquotedAt text place
  accepted : ∀ (p : Pair) (form : Form), p.MatchedIn text →
    Form.ofContent? (p.content text.toArray) = some form → form.Accepted (declaredLabels text)

theorem tolerated_balanceRemarks (text : List Char) :
    Tolerated ((balanceRemarks text).map (·.finding)) ↔ text.count '(' = text.count ')' := by
  unfold balanceRemarks
  split
  · next equal => simp [equal, tolerated_nil]
  · next different =>
    simpa [different] using not_tolerated_error rfl

theorem Report.valid_diagnostics_iff
    (document : Document) (source : String) (remarks : List Remark) :
    (Report.mk (remarks.map (Remark.diagnostic document source))).valid = true ↔
      Tolerated (remarks.map (·.finding)) := by
  rw [Report.valid_iff]
  simp only [Tolerated, List.forall_mem_map]
  rfl

theorem tolerated_windowRemarks (labels : List String) (text : List Char) (offset : Int) :
    Tolerated ((windowRemarks labels text offset).map (·.finding)) ↔
      ∀ v ∈ visits text, v.form.Accepted labels := by
  have findings : (windowRemarks labels text offset).map (·.finding) =
      (visits text).flatMap fun v => v.form.findings labels := by
    rw [windowRemarks, List.map_flatMap]
    simp only [Visit.remarks, List.map_map, Function.comp_def, List.map_id']
  simp only [findings, ← Form.tolerated_findings, Tolerated, List.mem_flatMap]
  constructor
  · intro tolerated v visited f found
    exact tolerated f ⟨v, visited, found⟩
  · rintro tolerated f ⟨v, visited, found⟩
    exact tolerated v visited f found

theorem forall_visits_iff (text : List Char) (property : Form → Prop) :
    (∀ v ∈ visits text, property v.form) ↔
      ∀ (p : Pair) (form : Form), p.MatchedIn text →
        Form.ofContent? (p.content text.toArray) = some form → property form := by
  constructor
  · intro holds p form matched read
    exact holds ⟨p, form⟩ ((mem_visits_iff text _).mpr ⟨mem_pairs_of_matchedIn matched, read⟩)
  · intro holds v visited
    obtain ⟨paired, read⟩ := (mem_visits_iff text v).mp visited
    exact holds v.pair v.form (matchedIn_of_mem_pairs paired) read

theorem tolerated_startRemarks (text : List Char) :
    Tolerated ((startRemarks text).map (·.finding)) ↔ ∃! place, StartsAt text place := by
  have increasing : ((Recognizer.start.occurrences text).map (·.start)).Pairwise (· < ·) :=
    List.pairwise_map.mpr (Recognizer.start.found_pairwise 0 0 text)
  have places := Recognizer.mem_starts_iff text
  rw [startRemarks]
  generalize (Recognizer.start.occurrences text).map (·.start) = starts at increasing places
  match starts with
  | [] =>
      refine iff_of_false (not_tolerated_error rfl) ?_
      rintro ⟨place, starts, _⟩
      exact absurd ((places place).mpr starts) List.not_mem_nil
  | [place] =>
      refine iff_of_true tolerated_nil ⟨place, (places place).mp (by simp), ?_⟩
      intro other starts
      exact List.mem_singleton.mp ((places other).mpr starts)
  | first :: second :: more =>
      refine iff_of_false (not_tolerated_error rfl) ?_
      rintro ⟨place, _, only⟩
      have isFirst := only first ((places first).mp (by simp))
      have isSecond := only second ((places second).mp (by simp))
      have earlier := (List.pairwise_cons.mp increasing).1 second (by simp)
      omega

/-- Where every form is accepted, unquoted dialogue can only be unclosed. -/
theorem unclosedDialogue_eq_nil_iff
    {text : List Char}
    (tolerated : Tolerated ((windowRemarks (declaredLabels text) text).map (·.finding))) :
    unclosedDialogue text = [] ↔ ∀ place, ¬ UnquotedAt text place := by
  rw [← Recognizer.unquotedDialogue_occurrences_eq_nil_iff, unclosedDialogue,
    List.filter_eq_nil_iff, List.eq_nil_iff_forall_not_mem]
  apply forall_congr'
  intro o
  constructor
  · intro closed listed
    have closed : Closed text o.start := by simpa using closed listed
    obtain ⟨p, matched, sameStart⟩ := closed
    have unquoted := Recognizer.unquotedAt_of_mem_occurrences listed
    rw [← sameStart] at unquoted
    obtain ⟨form, visited, reported⟩ :=
      exists_visit_of_unquotedAt (mem_pairs_of_matchedIn matched) unquoted (declaredLabels text)
    have isWarning := tolerated _ (List.mem_map_of_mem
      ((mem_windowRemarks_iff _ text _).mpr ⟨_, visited, _, reported, rfl⟩))
    cases isWarning
  · intro unlisted listed
    exact absurd listed unlisted

theorem tolerated_keptRemarks (text : List Char) :
    Tolerated ((keptRemarks text).map (·.finding)) ↔ ValidScript text := by
  have dialogueErrors : Tolerated (((unclosedDialogue text).map dialogueRemark).map (·.finding)) ↔
      unclosedDialogue text = [] := by
    cases unclosedDialogue text with
    | nil => simp [tolerated_nil]
    | cons o rest =>
        refine iff_of_false ?_ (by simp)
        intro tolerated
        have isWarning := tolerated .unquotedDialogue (by simp [dialogueRemark])
        cases isWarning
  simp only [keptRemarks, firstRemarks, List.map_append, tolerated_append]
  rw [tolerated_balanceRemarks, tolerated_startRemarks, dialogueErrors]
  constructor
  · rintro ⟨⟨⟨equallyMany, tolerated⟩, oneStart⟩, closed⟩
    exact ⟨equallyMany, oneStart, (unclosedDialogue_eq_nil_iff tolerated).mp closed,
      (forall_visits_iff text _).mp ((tolerated_windowRemarks _ text 0).mp tolerated)⟩
  · rintro ⟨equallyMany, oneStart, quoted, accepted⟩
    have tolerated :=
      (tolerated_windowRemarks _ text 0).mpr ((forall_visits_iff text _).mpr accepted)
    exact ⟨⟨⟨equallyMany, tolerated⟩, oneStart⟩, (unclosedDialogue_eq_nil_iff tolerated).mpr quoted⟩

/-- A check of a script within the size limit gives a report, and the report is valid exactly
for the scripts described by `ValidScript`. -/
theorem Checker.check_valid_iff
    (checker : Checker) (script uri : String)
    (withinLimit : (script.toList.length : Int) ≤ checker.maxScriptSize) :
    ∃ report, (checker.check script uri).value = .ok report ∧
      (report.valid = true ↔ ValidScript script.toList) := by
  refine ⟨_, checker.check_eq script uri withinLimit, ?_⟩
  rw [Report.valid_iff, toList_reportAll_remarks, ← tolerated_keptRemarks]
  simp only [Tolerated, List.forall_mem_map]
  rfl

/-- The description is met, with a nested form, a warning about surplus arguments and a blank
pair of parentheses in the script. -/
theorem Checker.check_valid_iff_sample :
    let script := "(label a)(start a) () (say x y) (after (set v 1)) (dialogue \"Hi\" speaker B)"
    (script.toList.length : Int) ≤ ({} : Checker).maxScriptSize ∧
      (∃ report, (({} : Checker).check script "x").value = .ok report ∧ report.valid = true) ∧
      ValidScript script.toList := by
  intro script
  have withinLimit : (script.toList.length : Int) ≤ ({} : Checker).maxScriptSize := by
    decide +kernel
  obtain ⟨report, checked, valid⟩ := Checker.check_valid_iff {} script "x" withinLimit
  have isValid : (match (({} : Checker).check script "x").value with
      | .ok report => report.valid
      | .error _ => false) = true := by decide +kernel
  rw [checked] at isValid
  exact ⟨withinLimit, ⟨report, checked, isValid⟩, valid.mp isValid⟩

end StoryScript
