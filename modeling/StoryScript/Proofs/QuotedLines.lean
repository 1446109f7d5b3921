import StoryScript.Proofs.Accounting
import StoryScript.Proofs.Boundaries
import StoryScript.Proofs.Quoting
import StoryScript.Proofs.StartCount
import StoryScript.Proofs.Validity

/-!
# Parentheses inside quotes

Only tokens know about quotes. Parentheses are paired, labels declared and starts counted in the
text of a line of dialogue as they are elsewhere. A line whose parentheses balance stays one
literal, and what stands in it is checked as a part of the script. In any other line the counts
differ, or one of its closers closes the dialogue before the second quote comes.
-/

namespace StoryScript

theorem startPlaces_append
    {first : List Char} (nonePending : (Pairing.ofText first).pending = []) (second : List Char) :
    startPlaces (first ++ second) =
      startPlaces first ++ (startPlaces second).map (first.length + ·) := by
  rw [startPlaces_eq, startPlaces_eq, startPlaces_eq,
    Recognizer.start_withoutClosers.occurrences_append nonePending, List.map_append, List.map_map,
    List.map_map]
  rfl

/-! ### Dialogue around a line -/

/-- What stands in front of a quoted line. -/
def dialogueLead : List Char := "dialogue \"".toList

theorem plain_dialogueLead : Plain dialogueLead := by decide

theorem plain_quote : Plain ['"'] := by decide

/-- The content of dialogue that says a line. -/
def spoken (line : List Char) : List Char := dialogueLead ++ (line ++ ['"'])

/-- The text of dialogue that says a line. -/
def dialogueText (line : List Char) : List Char := '(' :: (spoken line ++ [')'])

def dialogueForm (line : List Char) : Form := ⟨"dialogue", ["\"" ++ String.ofList line ++ "\""]⟩

theorem length_spoken (line : List Char) : (spoken line).length = line.length + 11 := by
  have front : dialogueLead.length = 10 := by decide
  rw [spoken, List.length_append, front, List.length_append, List.length_singleton]
  omega

theorem Balanced.spoken {line : List Char} (balanced : Balanced line) : Balanced (spoken line) :=
  plain_dialogueLead.balanced.append (balanced.append plain_quote.balanced)

theorem ofContent?_spoken {line : List Char} (noQuote : '"' ∉ line) :
    Form.ofContent? (spoken line) = some (dialogueForm line) := by
  have split : spoken line = "dialogue".toList ++ ([' '] ++ '"' :: (line ++ '"' :: [])) := rfl
  apply (ofContent?_eq_some_iff _ _).mpr
  rw [split, tokens_word_append (by decide) (by decide) (by decide) (by simp; decide),
    tokens_blanks_append (List.forall_mem_singleton.mpr (by decide)),
    tokens_literal_append noQuote, tokens_of_blank rfl]
  have quoted : String.ofList ('"' :: (line ++ ['"'])) = "\"" ++ String.ofList line ++ "\"" := by
    apply (eq_quoted_iff _ _).mpr
    rw [String.toList_ofList, String.toList_ofList]
  rw [quoted]
  rfl

theorem findings_dialogueForm (labels : List String) (line : List Char) :
    (dialogueForm line).findings labels = Finding.when (allBlank line = true) .emptyDialogue := by
  have quoted : literal? ("\"" ++ String.ofList line ++ "\"") = some (String.ofList line) :=
    (literal?_eq_some_iff _ _).mpr rfl
  have named : (dialogueForm line).findings labels =
      (dialogueForm line).keywordFindings .dialogue labels :=
    Form.findings_of_name labels .dialogue _
  have ruled : Rule.dialogue labels ["\"" ++ String.ofList line ++ "\""] =
      Finding.when (allBlank line = true) .emptyDialogue := by
    simp only [Rule.dialogue, List.headD_cons, quoted, String.toList_ofList, List.append_nil]
  rw [named]
  exact ruled

/-- The forms in a line are visited in the text of the dialogue, and then the dialogue is. -/
theorem visits_dialogueText
    {line : List Char} (noQuote : '"' ∉ line) (balanced : Balanced line) :
    visits (dialogueText line) =
      (visits line).map (Visit.shift 11) ++ [⟨⟨0, line.length + 12⟩, dialogueForm line⟩] := by
  have inSpoken : visits (spoken line) = (visits line).map (Visit.shift 10) := by
    rw [spoken, visits_append_of_nonePending plain_dialogueLead.balanced.nonePending,
      visits_of_plain plain_dialogueLead, visits_append_of_nonePending balanced.nonePending,
      visits_of_plain plain_quote, List.map_nil, List.append_nil, List.nil_append]
    rfl
  rw [dialogueText, visits_enclose balanced.spoken, ofContent?_spoken noQuote, length_spoken,
    inSpoken, List.map_map]
  congr 1
  apply List.map_congr_left
  intro v _
  exact v.shift_shift 1 10

theorem windowRemarks_dialogueText
    {line : List Char} (noQuote : '"' ∉ line) (balanced : Balanced line)
    (labels : List String) (offset : Int) :
    windowRemarks labels (dialogueText line) offset =
      windowRemarks labels line (offset + 11) ++
        (Finding.when (allBlank line = true) .emptyDialogue).map fun f =>
          ⟨offset, offset + line.length + 13, f⟩ := by
  have stop : offset + ((line.length + 12 : Nat) : Int) + 1 = offset + line.length + 13 := by omega
  rw [windowRemarks, visits_dialogueText noQuote balanced, List.flatMap_append, List.flatMap_map,
    List.flatMap_singleton]
  simp only [Visit.remarks_shift]
  congr 1
  simp only [Visit.remarks, findings_dialogueForm, stop, Int.natCast_zero, Int.add_zero]

/-- A search finds in the text of dialogue what it finds in the line. -/
theorem Recognizer.WithoutClosers.occurrences_dialogueText
    {α : Type} {r : Recognizer α} (withoutClosers : r.WithoutClosers)
    (other : ∀ rest, r ('(' :: (dialogueLead ++ rest)) = none)
    {line : List Char} (balanced : Balanced line) :
    r.occurrences (dialogueText line) = (r.occurrences line).map (Occurrence.shift 11) := by
  have atOpeners := withoutClosers.atOpeners
  have split : dialogueText line = '(' :: (dialogueLead ++ (line ++ ['"', ')'])) := by
    simp only [dialogueText, spoken, List.append_assoc, List.singleton_append]
  have noOpener : '(' ∉ ['"', ')'] := by decide
  have behind : r.occurrences ['"', ')'] = [] :=
    atOpeners.found_append noOpener (Nat.zero_le _) 0 []
  have inLine : r.occurrences (line ++ ['"', ')']) = r.occurrences line := by
    rw [withoutClosers.occurrences_append balanced.nonePending, behind, List.map_nil,
      List.append_nil]
  calc r.occurrences (dialogueText line)
      = r.found 1 0 (dialogueLead ++ (line ++ ['"', ')'])) := by
        rw [split]
        exact r.found_none (other _)
    _ = r.found 11 0 (line ++ ['"', ')']) :=
        atOpeners.found_append (by decide) (Nat.zero_le _) 1 _
    _ = (r.occurrences (line ++ ['"', ')'])).map (Occurrence.shift 11) := r.found_shift 11 0 0 _
    _ = (r.occurrences line).map (Occurrence.shift 11) := by rw [inLine]

theorem declaredLabels_dialogueText {line : List Char} (balanced : Balanced line) :
    declaredLabels (dialogueText line) = declaredLabels line := by
  have other : ∀ rest, Recognizer.label ('(' :: (dialogueLead ++ rest)) = none :=
    fun rest => rfl
  rw [declaredLabels, Recognizer.label_withoutClosers.occurrences_dialogueText other balanced,
    List.map_map]
  rfl

theorem startPlaces_dialogueText {line : List Char} (balanced : Balanced line) :
    startPlaces (dialogueText line) = (startPlaces line).map (11 + ·) := by
  have other : ∀ rest, Recognizer.start ('(' :: (dialogueLead ++ rest)) = none :=
    fun rest => rfl
  rw [startPlaces_eq, startPlaces_eq,
    Recognizer.start_withoutClosers.occurrences_dialogueText other balanced, List.map_map,
    List.map_map]
  rfl

/-! ### A script around a line -/

/-- A script that says a line and nothing else. -/
def scriptSaying (line : String) : String := "(start a)(label a)(dialogue \"" ++ line ++ "\")"

def scriptFront : List Char := "(start a)(label a)".toList

theorem toList_scriptSaying (line : String) :
    (scriptSaying line).toList = scriptFront ++ dialogueText line.toList := by
  have front : "(start a)(label a)(dialogue \"".toList =
      scriptFront ++ '(' :: dialogueLead := by decide
  have back : "\")".toList = ['"', ')'] := by decide
  unfold scriptSaying dialogueText spoken
  rw [String.toList_append, String.toList_append, front, back]
  simp only [List.append_assoc, List.cons_append, List.nil_append]

theorem balanced_scriptFront : Balanced scriptFront :=
  (Pairing.balanced_iff _).mpr (by decide)

theorem length_scriptSaying (line : String) :
    (scriptSaying line).toList.length = 31 + line.toList.length := by
  have front : scriptFront.length = 18 := by decide
  rw [toList_scriptSaying, List.length_append, front, dialogueText, List.length_cons,
    List.length_append, length_spoken, List.length_singleton]
  omega

theorem balanced_scriptSaying {line : String} (balanced : Balanced line.toList) :
    Balanced (scriptSaying line).toList := by
  rw [toList_scriptSaying]
  exact balanced_scriptFront.append balanced.spoken.enclose

/-- The labels that a script with a balanced line declares. -/
def labelsWith (line : String) : List String := "a" :: declaredLabels line.toList

theorem declaredLabels_scriptSaying {line : String} (balanced : Balanced line.toList) :
    declaredLabels (scriptSaying line).toList = labelsWith line := by
  have front : declaredLabels scriptFront = ["a"] := by decide
  rw [toList_scriptSaying, declaredLabels_append balanced_scriptFront.nonePending, front,
    declaredLabels_dialogueText balanced]
  rfl

theorem startPlaces_scriptSaying {line : String} (balanced : Balanced line.toList) :
    startPlaces (scriptSaying line).toList = 0 :: (startPlaces line.toList).map (29 + ·) := by
  have front : startPlaces scriptFront = [0] := by decide
  rw [toList_scriptSaying, startPlaces_append balanced_scriptFront.nonePending, front,
    startPlaces_dialogueText balanced, List.map_map, List.singleton_append]
  congr 1
  apply List.map_congr_left
  intro place _
  exact (Nat.add_assoc 18 11 place).symm

/-- The label of the script is reported when the line declares it again. -/
def repeatedLabel (line : String) : List Remark :=
  (Finding.when ("a" ∈ declaredLabels line.toList) (.duplicateLabel "a")).map (Remark.mk 9 18)

/-- The dialogue is reported when the line is blank. -/
def blankLine (line : String) : List Remark :=
  (Finding.when (allBlank line.toList = true) .emptyDialogue).map
    (Remark.mk 18 (31 + line.toList.length))

theorem windowRemarks_scriptFront (line : String) :
    windowRemarks (labelsWith line) scriptFront = repeatedLabel line := by
  have front : visits scriptFront =
      [⟨⟨0, 8⟩, ⟨Keyword.start.name, ["a"]⟩⟩, ⟨⟨9, 17⟩, ⟨Keyword.label.name, ["a"]⟩⟩] := by
    decide +kernel
  have start : Form.findings (labelsWith line) ⟨Keyword.start.name, ["a"]⟩ = [] := by
    rw [Form.findings_of_name]
    simp [Form.keywordFindings, Keyword.rule?, Rule.start, labelsWith, Finding.when,
      Keyword.arity, Arity.tooFew, Arity.tooMany]
  have label : Form.findings (labelsWith line) ⟨Keyword.label.name, ["a"]⟩ =
      Finding.when ("a" ∈ declaredLabels line.toList) (.duplicateLabel "a") := by
    have isName : isLabelName "a" = true := by decide
    rw [Form.findings_of_name]
    simp [Form.keywordFindings, Keyword.rule?, Rule.label, labelsWith, Finding.when,
      Keyword.arity, Arity.tooFew, Arity.tooMany, isName]
  rw [windowRemarks, front]
  simp only [List.flatMap_cons, List.flatMap_nil, Visit.remarks, start, label, List.map_nil,
    List.nil_append, List.append_nil]
  rfl

theorem windowRemarks_scriptSaying
    {line : String} (noQuote : '"' ∉ line.toList) (balanced : Balanced line.toList) :
    windowRemarks (labelsWith line) (scriptSaying line).toList =
      repeatedLabel line ++ (windowRemarks (labelsWith line) line.toList 29 ++ blankLine line) := by
  have behindFront : (0 : Int) + scriptFront.length = 18 := by decide
  have stop : (18 : Int) + line.toList.length + 13 = 31 + line.toList.length := by omega
  rw [toList_scriptSaying, windowRemarks_append_of_nonePending _ balanced_scriptFront.nonePending,
    windowRemarks_scriptFront, windowRemarks_dialogueText noQuote balanced, behindFront, stop]
  rfl

/-- What a check keeps of a script that says a balanced line: whatever stands in the line is
reported at its place there. -/
def lineRemarks (line : String) : List Remark :=
  repeatedLabel line ++ (windowRemarks (labelsWith line) line.toList 29 ++ blankLine line) ++
    startRemarksAt (31 + line.toList.length) (0 :: (startPlaces line.toList).map (29 + ·))

theorem keptRemarks_scriptSaying
    {line : String} (noQuote : '"' ∉ line.toList) (balanced : Balanced line.toList) :
    keptRemarks (scriptSaying line).toList = lineRemarks line := by
  have whole := balanced_scriptSaying balanced
  rw [keptRemarks, firstRemarks, balanceRemarks_of_balanced whole,
    declaredLabels_scriptSaying balanced, windowRemarks_scriptSaying noQuote balanced,
    startRemarks_eq, length_scriptSaying, startPlaces_scriptSaying balanced,
    unclosedDialogue_of_nonePending whole.nonePending, List.nil_append, List.map_nil,
    List.append_nil, lineRemarks]

/-! ### Lines that do not balance -/

/-- The first stray closer of a line closes the dialogue. -/
theorem exists_pair_of_stray {before : List Char} (balanced : Balanced before) (after : List Char) :
    let text := scriptFront ++ dialogueText (before ++ ')' :: after)
    ∃ p : Pair, p.MatchedIn text ∧ p.content text.toArray = dialogueLead ++ before := by
  intro text
  have split : text = scriptFront ++
      '(' :: ((dialogueLead ++ before) ++ ')' :: (after ++ ['"', ')'])) := by
    simp only [text, dialogueText, spoken, List.append_assoc, List.cons_append, List.nil_append]
  rw [split]
  refine ⟨_, (Pair.matchedIn_iff_split _ _).mpr ⟨_, _, _, rfl, rfl, ?_⟩, Pair.content_split _ _ _⟩
  exact plain_dialogueLead.balanced.append balanced

/-- Dialogue with a single quote is not accepted. -/
theorem exists_unaccepted_of_open_quote
    {before : List Char} (noQuote : '"' ∉ before) (labels : List String) :
    ∃ form, Form.ofContent? (dialogueLead ++ before) = some form ∧
      ¬ form.Accepted labels := by
  have split : dialogueLead ++ before = "dialogue".toList ++ ' ' :: '"' :: before := rfl
  have words : tokens (dialogueLead ++ before) =
      "dialogue" :: tokens (' ' :: '"' :: before) := by
    rw [split]
    exact tokens_word_append (by decide) (by decide) (by decide) (by simp; decide)
  have read := (ofContent?_eq_some_iff _ ⟨"dialogue", _⟩).mpr words
  refine ⟨_, read, ?_⟩
  intro accepted
  have quoted := (accepted.asked .dialogue rfl).1
  obtain ⟨lead, gap, more, whole, _, _, closed⟩ :=
    (isQuoted_arg_iff read (k := .dialogue) rfl).mp quoted
  have quotes := congrArg (List.count '"') whole
  have one : dialogueLead.count '"' = 1 := by decide
  rw [List.count_append, one, List.count_eq_zero.mpr noQuote, List.count_append, List.count_append,
    List.count_append, List.count_cons_self] at quotes
  have another := List.count_pos_iff.mpr closed
  omega

theorem count_scriptSaying (line : String) :
    (scriptSaying line).toList.count '(' = 3 + line.toList.count '(' ∧
      (scriptSaying line).toList.count ')' = 3 + line.toList.count ')' := by
  have front : scriptFront.count '(' = 2 ∧ scriptFront.count ')' = 2 := by decide
  have lead : dialogueLead.count '(' = 0 ∧ dialogueLead.count ')' = 0 := by decide
  rw [toList_scriptSaying]
  simp [dialogueText, spoken, List.count_append, front, lead]
  omega

/-- A line that does not balance makes the script invalid: either the counts differ, or the
dialogue is closed inside the line and goes without its second quote. -/
theorem not_validScript_of_unbalanced
    {line : String} (noQuote : '"' ∉ line.toList) (unbalanced : ¬ Balanced line.toList) :
    ¬ ValidScript (scriptSaying line).toList := by
  intro valid
  have counts : line.toList.count '(' = line.toList.count ')' := by
    have whole := valid.equallyMany
    rw [(count_scriptSaying line).1, (count_scriptSaying line).2] at whole
    exact Nat.add_left_cancel whole
  have strays : (Pairing.ofText line.toList).strays ≠ 0 := by
    intro noStrays
    exact unbalanced ⟨counts, (Pairing.strays_eq_zero_iff _).mp noStrays⟩
  obtain ⟨before, after, split, balanced⟩ := exists_stray strays
  rw [split] at noQuote
  rw [toList_scriptSaying, split] at valid
  obtain ⟨p, matched, content⟩ := exists_pair_of_stray balanced after
  obtain ⟨form, read, unaccepted⟩ := exists_unaccepted_of_open_quote
    (fun member => noQuote (List.mem_append_left _ member)) _
  exact unaccepted (valid.accepted p form matched (by rw [content, read]))

/-! ### What a check says about a line -/

theorem startRemarksAt_eq_nil_iff (length first : Nat) (places : List Nat) :
    startRemarksAt length (first :: places) = [] ↔ places = [] := by
  cases places <;> simp [startRemarksAt]

theorem tolerated_startRemarksAt_iff (length first : Nat) (places : List Nat) :
    Tolerated ((startRemarksAt length (first :: places)).map (·.finding)) ↔ places = [] := by
  cases places with
  | nil => exact iff_of_true tolerated_nil rfl
  | cons second more => exact iff_of_false (not_tolerated_error rfl) (List.cons_ne_nil _ _)

theorem Remark.finding_map (start stop : Int) (findings : List Finding) :
    (findings.map (Remark.mk start stop)).map (·.finding) = findings := by
  rw [List.map_map]
  exact List.map_id findings

theorem tolerated_blankLine (line : String) : Tolerated ((blankLine line).map (·.finding)) := by
  rw [blankLine, Remark.finding_map]
  exact tolerated_when_warning rfl

theorem tolerated_lineRemarks_iff (line : String) :
    Tolerated ((lineRemarks line).map (·.finding)) ↔
      startPlaces line.toList = [] ∧ "a" ∉ declaredLabels line.toList ∧
        ∀ v ∈ visits line.toList, v.form.Accepted (labelsWith line) := by
  have repeated : Tolerated ((repeatedLabel line).map (·.finding)) ↔
      "a" ∉ declaredLabels line.toList := by
    rw [repeatedLabel, Remark.finding_map]
    exact tolerated_when_error rfl
  rw [lineRemarks]
  simp only [List.map_append, tolerated_append, repeated, tolerated_blankLine, and_true,
    tolerated_windowRemarks, tolerated_startRemarksAt_iff, List.map_eq_nil_iff]
  tauto

theorem windowRemarks_eq_nil_iff (labels : List String) (text : List Char) (offset : Int) :
    windowRemarks labels text offset = [] ↔ ∀ v ∈ visits text, v.form.findings labels = [] := by
  simp only [windowRemarks, List.flatMap_eq_nil_iff, Visit.remarks, List.map_eq_nil_iff]

/-- Nothing but a blank line is told of exactly when the line has no start, does not repeat the
label and has only forms without findings. -/
theorem map_lineRemarks_eq_iff {α : Type} (f : Remark → α) (line : String) :
    (lineRemarks line).map f = (blankLine line).map f ↔
      startPlaces line.toList = [] ∧ "a" ∉ declaredLabels line.toList ∧
        ∀ v ∈ visits line.toList, v.form.findings (labelsWith line) = [] := by
  have repeated : repeatedLabel line = [] ↔ "a" ∉ declaredLabels line.toList := by
    simp [repeatedLabel, Finding.when]
  have starts : startRemarksAt (31 + line.toList.length)
      (0 :: (startPlaces line.toList).map (29 + ·)) = [] ↔ startPlaces line.toList = [] := by
    rw [startRemarksAt_eq_nil_iff, List.map_eq_nil_iff]
  rw [← windowRemarks_eq_nil_iff _ _ 29, ← repeated, ← starts]
  constructor
  · intro same
    have lengths := congrArg List.length same
    simp only [lineRemarks, List.length_map, List.length_append] at lengths
    refine ⟨?_, ?_, ?_⟩ <;> apply List.eq_nil_of_length_eq_zero <;> omega
  · rintro ⟨noStart, notRepeated, silent⟩
    rw [lineRemarks, noStart, notRepeated, silent, List.nil_append, List.nil_append,
      List.append_nil]

theorem map_blankLine (document : Document) (source line : String) :
    (blankLine line).map (Remark.diagnostic document source) =
      if allBlank line.toList then
        [⟨.warning, document.span 18 (31 + line.toList.length), "Empty dialogue", source⟩]
      else [] := by
  rw [blankLine, Finding.when]
  split <;> rfl

theorem validScript_scriptSaying_iff {line : String} (noQuote : '"' ∉ line.toList) :
    ValidScript (scriptSaying line).toList ↔
      Balanced line.toList ∧ startPlaces line.toList = [] ∧ "a" ∉ declaredLabels line.toList ∧
        ∀ v ∈ visits line.toList, v.form.Accepted (labelsWith line) := by
  by_cases balanced : Balanced line.toList
  · rw [← tolerated_keptRemarks, keptRemarks_scriptSaying noQuote balanced,
      tolerated_lineRemarks_iff, and_iff_right balanced]
  · exact iff_of_false (not_validScript_of_unbalanced noQuote balanced) fun fit => balanced fit.1

theorem map_keptRemarks_eq_iff
    (document : Document) (source : String) {line : String} (noQuote : '"' ∉ line.toList) :
    (keptRemarks (scriptSaying line).toList).map (Remark.diagnostic document source) =
        (blankLine line).map (Remark.diagnostic document source) ↔
      Balanced line.toList ∧ startPlaces line.toList = [] ∧ "a" ∉ declaredLabels line.toList ∧
        ∀ v ∈ visits line.toList, v.form.findings (labelsWith line) = [] := by
  by_cases balanced : Balanced line.toList
  · rw [keptRemarks_scriptSaying noQuote balanced, map_lineRemarks_eq_iff, and_iff_right balanced]
  · refine iff_of_false ?_ fun fit => balanced fit.1
    intro same
    -- A blank line is only a warning, but a line that does not balance makes the script invalid.
    apply not_validScript_of_unbalanced noQuote balanced
    rw [← tolerated_keptRemarks, ← Report.valid_diagnostics_iff document source, same,
      Report.valid_diagnostics_iff]
    exact tolerated_blankLine line

/-- What a check says of a script around a line without quotes. If the line has no parentheses,
there is at most the warning that it is blank. With parentheses this is so exactly when they
balance and the line has no start, does not declare the label of the script and has no form with
a finding. The script is valid exactly when the parentheses balance, there is no start and no such
label in the line, and its forms are accepted. Where the parentheses balance, the diagnostics are
those about the line and about what stands in it, at its place there. -/
theorem Checker.check_scriptSaying
    (checker : Checker) (line uri : String) (noQuote : '"' ∉ line.toList)
    (withinLimit : ((scriptSaying line).toList.length : Int) ≤ checker.maxScriptSize) :
    let document := Document.ofText (scriptSaying line).toList uri
    let labels := "a" :: declaredLabels line.toList
    let blank : List Diagnostic :=
      if allBlank line.toList then
        [⟨.warning, document.span 18 (31 + line.toList.length), "Empty dialogue", checker.source⟩]
      else []
    ∃ report, (checker.check (scriptSaying line) uri).value = .ok report ∧
      (Plain line.toList → report.diagnostics = blank) ∧
      (report.diagnostics = blank ↔
        Balanced line.toList ∧ startPlaces line.toList = [] ∧ "a" ∉ declaredLabels line.toList ∧
          ∀ v ∈ visits line.toList, v.form.findings labels = []) ∧
      (report.valid = true ↔
        Balanced line.toList ∧ startPlaces line.toList = [] ∧ "a" ∉ declaredLabels line.toList ∧
          ∀ v ∈ visits line.toList, v.form.Accepted labels) ∧
      (Balanced line.toList →
        report.diagnostics =
          (lineRemarks line).map (Remark.diagnostic document checker.source)) := by
  intro document labels blank
  have checked := checker.check_eq (scriptSaying line) uri withinLimit
  rw [toList_reportAll_remarks] at checked
  have silent := map_keptRemarks_eq_iff document checker.source noQuote
  have isBlank : (blankLine line).map (Remark.diagnostic document checker.source) = blank :=
    map_blankLine document checker.source line
  rw [isBlank] at silent
  have valid := Report.valid_diagnostics_iff document checker.source
    (keptRemarks (scriptSaying line).toList)
  rw [tolerated_keptRemarks, validScript_scriptSaying_iff noQuote] at valid
  have reported : Balanced line.toList → _ := fun balanced =>
    congrArg (List.map (Remark.diagnostic document checker.source))
      (keptRemarks_scriptSaying noQuote balanced)
  -- From here on it does not matter how the diagnostics come about.
  generalize (keptRemarks (scriptSaying line).toList).map
    (Remark.diagnostic document checker.source) = diagnostics at checked silent valid reported
  refine ⟨⟨diagnostics⟩, checked, ?_, silent, valid, reported⟩
  intro plain
  refine silent.mpr ⟨plain.balanced, ?_, ?_, ?_⟩
  · rw [startPlaces_eq, Recognizer.start_withoutClosers.occurrences_of_plain plain, List.map_nil]
  · rw [declaredLabels, Recognizer.label_withoutClosers.occurrences_of_plain plain]
    exact List.not_mem_nil
  · simp [visits_of_plain plain]

/-- A form inside the quotes is checked although it is a part of the line. -/
theorem Checker.check_scriptSaying_aside :
    let line := "Hm (set x 1)\n(no)"
    let script := "(start a)(label a)(dialogue \"Hm (set x 1)\n(no)\")"
    let document := Document.ofText script.toList "x"
    '"' ∉ line.toList ∧
    ((scriptSaying line).toList.length : Int) ≤ ({} : Checker).maxScriptSize ∧
    scriptSaying line = script ∧
    (({} : Checker).check script "x").value = .ok
      ⟨[⟨.error, document.span 42 46, "Unknown keyword 'no'", "vnscript"⟩]⟩ := by
  intro line script document
  have noQuote : '"' ∉ line.toList := by decide +kernel
  have withinLimit : ((scriptSaying line).toList.length : Int) ≤ ({} : Checker).maxScriptSize := by
    decide +kernel
  have isScript : scriptSaying line = script := by decide +kernel
  obtain ⟨⟨found⟩, checked, _, _, _, diagnostics⟩ :=
    Checker.check_scriptSaying {} line "x" noQuote withinLimit
  rw [isScript] at checked diagnostics
  refine ⟨noQuote, withinLimit, isScript, ?_⟩
  rw [checked, Except.ok.injEq, Report.mk.injEq]
  exact (diagnostics (by decide +kernel)).trans (by decide +kernel)

/-- A closer in the line closes the dialogue, whose quote is then left open. -/
theorem Checker.check_scriptSaying_closer :
    let script := "(start a)(label a)(dialogue \")\")"
    let document := Document.ofText script.toList "x"
    scriptSaying ")" = script ∧ '"' ∉ ")".toList ∧
    (script.toList.length : Int) ≤ ({} : Checker).maxScriptSize ∧
    ∃ report, (({} : Checker).check script "x").value = .ok report ∧
      report.valid = false ∧
      report.diagnostics =
        [⟨.error, document.span 0 1, "Mismatched parentheses: 3 opening, 4 closing", "vnscript"⟩,
          ⟨.error, document.span 18 30, "Dialogue must be enclosed in double quotes",
            "vnscript"⟩] := by
  intro script document
  refine ⟨by decide +kernel, by decide +kernel, by decide +kernel, ⟨_⟩, ?_, ?_, rfl⟩
  · decide +kernel
  · decide +kernel

end StoryScript
