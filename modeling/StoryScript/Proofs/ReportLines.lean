import StoryScript.Proofs.Declarations
import StoryScript.Proofs.JsonScalars
import StoryScript.Proofs.Validity
import StoryScript.Server

/-!
# The lines of a text report

A text report has a header, one entry for each diagnostic and the totals, joined by line feeds.
Nothing in it but a message can have line feeds of its own, and a message has those of the word
that it quotes from the script. Only a literal goes over several lines, so the entries are lines
unless a form has such a literal for its keyword, or for the first argument that a rule about
names complains about. Then the message is broken and the report has more lines than entries.
-/

namespace StoryScript

/-! ### Texts and their lines -/

/-- The parts of a text between its line feeds. -/
def linesOf (text : String) : List String := (text.toList.splitOn '\n').map String.ofList

theorem linesOf_of_not_mem {text : String} (noFeed : '\n' ∉ text.toList) :
    linesOf text = [text] := by
  rw [linesOf, List.splitOn_eq_singleton noFeed, List.map_singleton, String.ofList_toList]

theorem linesOf_append_feed (first second : String) :
    linesOf (first ++ ("\n" ++ second)) = linesOf first ++ linesOf second := by
  have feed : "\n".toList = ['\n'] := by decide
  rw [linesOf, String.toList_append, String.toList_append, feed, List.singleton_append,
    List.splitOn_append_cons_self, List.map_append]
  rfl

/-- Joined texts keep their lines. -/
theorem linesOf_intercalate {texts : List String} (nonempty : texts ≠ []) :
    linesOf ("\n".intercalate texts) = texts.flatMap linesOf := by
  induction texts with
  | nil => exact absurd rfl nonempty
  | cons text rest inductionHypothesis =>
      rw [List.flatMap_cons]
      cases rest with
      | nil => rw [String.intercalate_singleton, List.flatMap_nil, List.append_nil]
      | cons next more =>
          rw [String.intercalate_cons_cons, String.append_assoc, linesOf_append_feed,
            inductionHypothesis (by simp)]

/-- There is one more line than there are line feeds. -/
theorem length_linesOf (text : String) : (linesOf text).length = text.toList.count '\n' + 1 := by
  rw [linesOf, List.length_map]
  induction text.toList with
  | nil => rfl
  | cons c rest inductionHypothesis =>
      rw [List.splitOn_cons_eq_if_modifyHead, List.count_cons]
      split
      · rw [List.length_cons, inductionHypothesis]
      · rw [List.length_modifyHead, inductionHypothesis]

theorem feed_not_mem_repr (n : Int) : '\n' ∉ n.repr.toList := by
  intro member
  exact absurd (Json.printable_renderInt n _ member) (by decide)

theorem feed_not_mem_nat_repr (n : Nat) : '\n' ∉ n.repr.toList := by
  have same : n.repr = (n : Int).repr := rfl
  rw [same]
  exact feed_not_mem_repr n

/-! ### The words that messages quote -/

namespace Finding

/-- The word of the script that a message quotes. -/
def quoted? : Finding → Option String
  | .unknownKeyword word | .tooFewArgs word | .tooManyArgs word => some word
  | .duplicateLabel name | .invalidLabelName name | .invalidVariableName name => some name
  | .unknownAction action => some action
  | .undefinedJump target | .undefinedStart target => some target
  | _ => none

theorem feed_mem_between {front word back : String} (inFront : '\n' ∉ front.toList)
    (inBack : '\n' ∉ back.toList) :
    '\n' ∈ (front ++ word ++ back).toList ↔ '\n' ∈ word.toList := by
  simp only [String.toList_append, List.mem_append, inFront, inBack, false_or, or_false]

/-- A message has the line feeds of the word that it quotes, and no others. -/
theorem feed_mem_message_iff (f : Finding) :
    '\n' ∈ f.message.toList ↔ ∃ word, f.quoted? = some word ∧ '\n' ∈ word.toList := by
  cases f
  case unbalanced opening closing =>
    refine iff_of_false ?_ (by simp [quoted?])
    unfold message
    simp only [String.toList_append, List.mem_append, feed_not_mem_nat_repr, or_false]
    decide +kernel
  case unquotedDialogue | emptyDialogue | misplacedSpeaker | missingSpeaker | missingStart |
    repeatedStart => exact iff_of_false (by decide +kernel) (by simp [quoted?])
  all_goals
    simp only [quoted?, Option.some.injEq, exists_eq_left']
    exact feed_mem_between (by decide +kernel) (by decide +kernel)

/-- A finding whose message does not fit on one line. -/
def Broken (f : Finding) : Prop := '\n' ∈ f.message.toList

theorem broken_iff {f : Finding} {word : String} (quotes : f.quoted? = some word) :
    f.Broken ↔ '\n' ∈ word.toList := by
  rw [Broken, feed_mem_message_iff, quotes]
  simp only [Option.some.injEq, exists_eq_left']

end Finding

/-- Whether one of the findings has a message that does not fit on one line. -/
def SomeBroken (findings : List Finding) : Prop := ∃ f ∈ findings, f.Broken

theorem someBroken_append (first second : List Finding) :
    SomeBroken (first ++ second) ↔ SomeBroken first ∨ SomeBroken second := by
  simp only [SomeBroken, List.mem_append, or_and_right, exists_or]

theorem not_someBroken_of_quoted?_eq_none
    {findings : List Finding} (quoteNothing : ∀ f ∈ findings, f.quoted? = none) :
    ¬ SomeBroken findings := by
  rintro ⟨f, found, broken⟩
  obtain ⟨word, quotes, _⟩ := f.feed_mem_message_iff.mp broken
  rw [quoteNothing f found] at quotes
  cases quotes

/-- A name has no line feed, so a check of names complains about every word with one. -/
theorem isNameWith_of_feed
    {initial : Char → Bool} (visible : initial '\n' = false) {name : String}
    (feed : '\n' ∈ name.toList) : isNameWith initial name = false := by
  unfold isNameWith
  split
  · rfl
  · next c rest split =>
    rw [split, List.mem_cons] at feed
    rw [Bool.and_eq_false_iff]
    rcases feed with rfl | feed
    · exact .inl visible
    · refine .inr (List.all_eq_false.mpr ⟨_, feed, by decide⟩)

/-! ### The forms whose words are quoted -/

/-- The keywords whose rules quote the first argument. -/
def Keyword.quoting : List Keyword := [.label, .after, .jump, .start, .assign]

/-- A form with a line feed in a word that messages quote. -/
def Form.QuotesFeed (form : Form) : Prop :=
  '\n' ∈ form.keyword.toList ∨
    (∃ k ∈ Keyword.quoting, k.name = form.keyword) ∧ '\n' ∈ (form.arg 0).toList

instance (form : Form) : Decidable form.QuotesFeed :=
  inferInstanceAs (Decidable (_ ∨ (∃ k ∈ Keyword.quoting, _) ∧ _))

theorem Keyword.feed_not_mem_name (k : Keyword) : '\n' ∉ k.name.toList := by
  intro member
  exact absurd (k.name_solid _ member) (by decide)

namespace Form

variable {labels : List String} {form : Form}

theorem quotesFeed_of_draws
    {f : Finding} (draws : form.Draws labels f) {word : String} (quotes : f.quoted? = some word)
    (feed : '\n' ∈ word.toList) : form.QuotesFeed := by
  have ofArgument : ∀ k ∈ Keyword.quoting, form.keyword = k.name → form.arg 0 = word →
      form.QuotesFeed := by
    rintro k quoting named rfl
    exact .inr ⟨⟨k, quoting, named.symm⟩, feed⟩
  cases draws <;> simp only [Finding.quoted?, Option.some.injEq, reduceCtorEq] at quotes
  case unknownKeyword | tooFewArgs | tooManyArgs => exact .inl (quotes ▸ feed)
  case duplicateLabel named _ => exact ofArgument .label (by decide) named quotes
  case invalidLabelName named _ => exact ofArgument .label (by decide) named quotes
  case unknownAction named _ => exact ofArgument .after (by decide) named quotes
  case undefinedJump named _ _ _ => exact ofArgument .jump (by decide) named quotes
  case undefinedStart named _ _ => exact ofArgument .start (by decide) named quotes
  case invalidVariableName named _ => exact ofArgument .assign (by decide) named quotes

/-- A keyword with a line feed is never known, and a first argument with one is never what the
rule asks for, so it is always complained about. -/
theorem exists_draws_of_quotesFeed
    (noFeed : ∀ name ∈ labels, '\n' ∉ name.toList) (quotesFeed : form.QuotesFeed) :
    ∃ f word, form.Draws labels f ∧ f.quoted? = some word ∧ '\n' ∈ word.toList := by
  rcases quotesFeed with feed | ⟨⟨k, quoting, named⟩, feed⟩
  · have unnamed : ∀ k : Keyword, k.name ≠ form.keyword :=
      fun k named => k.feed_not_mem_name (named ▸ feed)
    have plain : ∀ operator ∈ operators, '\n' ∉ operator.toList := by decide
    exact ⟨_, _, .unknownKeyword unnamed fun operator => plain _ operator feed, rfl, feed⟩
  have hasTarget : form.args ≠ [] := by
    intro none
    rw [arg, none] at feed
    exact absurd feed (by decide)
  have undeclared : form.arg 0 ∉ labels := fun declared => noFeed _ declared feed
  simp only [Keyword.quoting, List.mem_cons, List.not_mem_nil, or_false] at quoting
  rcases quoting with rfl | rfl | rfl | rfl | rfl
  · have invalid : isLabelName (form.arg 0) = false := isNameWith_of_feed (by decide) feed
    exact ⟨_, _, .invalidLabelName named.symm invalid, rfl, feed⟩
  · have plain : ∀ action ∈ afterActions, '\n' ∉ action.toList := by decide
    exact ⟨_, _, .unknownAction named.symm fun known => plain _ known feed, rfl, feed⟩
  · have goesOn : form.arg 0 ≠ "end" := by
      intro ends
      rw [ends] at feed
      exact absurd feed (by decide)
    exact ⟨_, _, .undefinedJump named.symm hasTarget goesOn undeclared, rfl, feed⟩
  · exact ⟨_, _, .undefinedStart named.symm hasTarget undeclared, rfl, feed⟩
  · have invalid : isVariableName (form.arg 0) = false := isNameWith_of_feed (by decide) feed
    exact ⟨_, _, .invalidVariableName named.symm invalid, rfl, feed⟩

/-- Some message about a form has a line feed exactly when a word has one that messages about
the form quote. -/
theorem someBroken_findings_iff
    (noFeed : ∀ name ∈ labels, '\n' ∉ name.toList) (form : Form) :
    SomeBroken (form.findings labels) ↔ form.QuotesFeed := by
  constructor
  · rintro ⟨f, found, broken⟩
    obtain ⟨word, quotes, feed⟩ := f.feed_mem_message_iff.mp broken
    exact quotesFeed_of_draws (mem_findings_iff.mp found) quotes feed
  · intro quotesFeed
    obtain ⟨f, word, draws, quotes, feed⟩ := exists_draws_of_quotesFeed noFeed quotesFeed
    exact ⟨f, mem_findings_iff.mpr draws, (Finding.broken_iff quotes).mpr feed⟩

end Form

/-- The name of a declared label ends at the first blank. -/
theorem feed_not_mem_label
    {text : List Char} {name : String} (declared : name ∈ declaredLabels text) :
    '\n' ∉ name.toList := by
  obtain ⟨o, listed, rfl⟩ := List.mem_map.mp declared
  obtain ⟨_, recognized⟩ := Recognizer.label.recognized_of_mem_occurrences listed
  obtain ⟨_, _, _, _, _, _, solid, _⟩ := Recognizer.label_eq_some_iff.mp recognized
  intro member
  exact absurd (solid _ member).1 (by decide)

theorem someBroken_windowRemarks_iff (text : List Char) :
    SomeBroken ((windowRemarks (declaredLabels text) text).map (·.finding)) ↔
      ∃ v ∈ visits text, v.form.QuotesFeed := by
  constructor
  · rintro ⟨f, member, broken⟩
    obtain ⟨r, reported, rfl⟩ := List.mem_map.mp member
    obtain ⟨v, visited, f, found, rfl⟩ := (mem_windowRemarks_iff _ text r).mp reported
    refine ⟨v, visited, ?_⟩
    exact (Form.someBroken_findings_iff (fun _ => feed_not_mem_label) v.form).mp ⟨f, found, broken⟩
  · rintro ⟨v, visited, quotes⟩
    obtain ⟨f, found, broken⟩ :=
      (Form.someBroken_findings_iff (fun _ => feed_not_mem_label) v.form).mpr quotes
    have reported := (mem_windowRemarks_iff _ text _).mpr ⟨v, visited, f, found, rfl⟩
    exact ⟨f, List.mem_map_of_mem reported, broken⟩

/-- What a check keeps has a message with a line feed exactly when a form that is visited has one
in a quoted word: the findings about the whole text and those of the last pass quote nothing. -/
theorem someBroken_keptRemarks_iff (text : List Char) :
    SomeBroken ((keptRemarks text).map (·.finding)) ↔ ∃ v ∈ visits text, v.form.QuotesFeed := by
  have balance : ¬ SomeBroken ((balanceRemarks text).map (·.finding)) := by
    apply not_someBroken_of_quoted?_eq_none
    unfold balanceRemarks
    split <;> simp [Finding.quoted?]
  have start : ¬ SomeBroken ((startRemarks text).map (·.finding)) := by
    apply not_someBroken_of_quoted?_eq_none
    unfold startRemarks startRemarksAt
    split <;> simp [Finding.quoted?]
  have dialogue : ¬ SomeBroken (((unclosedDialogue text).map dialogueRemark).map (·.finding)) := by
    apply not_someBroken_of_quoted?_eq_none
    simp [dialogueRemark, Finding.quoted?]
  simp only [keptRemarks, firstRemarks, List.map_append, someBroken_append, balance, start,
    dialogue, false_or, or_false]
  exact someBroken_windowRemarks_iff text

/-! ### The lines of a report -/

namespace Diagnostic

theorem count_feed_entry (d : Diagnostic) :
    d.entry.toList.count '\n' = d.message.toList.count '\n' := by
  have label : '\n' ∉ d.severity.label.toList := by cases d.severity <;> decide
  have digits := fun n => List.count_eq_zero.mpr (feed_not_mem_repr n)
  simp only [entry, String.toList_append, List.count_append, List.count_eq_zero.mpr label, digits]
  rw [Nat.add_eq_right]
  decide

theorem linesOf_entry {d : Diagnostic} (unbroken : '\n' ∉ d.message.toList) :
    linesOf d.entry = [d.entry] := by
  apply linesOf_of_not_mem
  rw [← List.count_eq_zero, count_feed_entry, List.count_eq_zero]
  exact unbroken

end Diagnostic

namespace Report

theorem feed_not_mem_header (r : Report) : '\n' ∉ r.header.toList := by
  unfold header validHeader
  split <;> decide

theorem feed_not_mem_totals (r : Report) : '\n' ∉ r.totals.toList := by
  simp only [totals, String.toList_append, List.mem_append, feed_not_mem_nat_repr, false_or,
    or_false]
  decide

/-- The lines of a report with diagnostics: the header, the lines of the entries, the totals. -/
theorem linesOf_toText {r : Report} (nonempty : r.diagnostics ≠ []) :
    linesOf r.toText =
      r.header :: (r.diagnostics.flatMap (fun d => linesOf d.entry) ++ [r.totals]) := by
  rw [toText, if_neg (by simpa using nonempty), linesOf_intercalate (by simp), List.flatMap_cons,
    List.flatMap_append, List.flatMap_map, List.flatMap_singleton,
    linesOf_of_not_mem r.feed_not_mem_header, linesOf_of_not_mem r.feed_not_mem_totals]
  rfl

theorem header_eq (r : Report) :
    r.header =
      if ∃ d ∈ r.diagnostics, d.severity = .error then "Script has validation errors:"
      else "Script is valid." := by
  have invalid : (∃ d ∈ r.diagnostics, d.severity = .error) ↔ ¬ r.valid = true := by
    rw [valid, errors, List.isEmpty_iff, List.filter_eq_nil_iff]
    simp only [decide_eq_true_eq, not_forall, not_not, exists_prop]
  simp only [invalid, ite_not]
  rfl

theorem errors_add_warnings (r : Report) :
    r.errors.length + r.warnings.length = r.diagnostics.length := by
  rw [r.diagnostics.length_eq_length_filter_add fun d => decide (d.severity = .error), errors,
    warnings]
  congr 2
  apply List.filter_congr
  intro d _
  cases d.severity <;> rfl

theorem length_flatMap_linesOf (diagnostics : List Diagnostic) :
    (diagnostics.flatMap fun d => linesOf d.entry).length =
      diagnostics.length + (diagnostics.flatMap fun d => d.message.toList).count '\n' := by
  induction diagnostics with
  | nil => rfl
  | cons d rest inductionHypothesis =>
      rw [List.flatMap_cons, List.flatMap_cons, List.length_append, List.count_append,
        inductionHypothesis, length_linesOf, Diagnostic.count_feed_entry, List.length_cons]
      omega

/-- A report has a line more for every line feed in a message. -/
theorem length_linesOf_toText {r : Report} (nonempty : r.diagnostics ≠ []) :
    (linesOf r.toText).length =
      r.diagnostics.length + 2 + (r.diagnostics.flatMap fun d => d.message.toList).count '\n' := by
  rw [linesOf_toText nonempty, List.length_cons, List.length_append, length_flatMap_linesOf,
    List.length_singleton]
  omega

theorem length_linesOf_toText_eq_iff {r : Report} (nonempty : r.diagnostics ≠ []) :
    (linesOf r.toText).length = r.diagnostics.length + 2 ↔
      ∀ d ∈ r.diagnostics, '\n' ∉ d.message.toList := by
  rw [length_linesOf_toText nonempty, Nat.add_eq_left, List.count_eq_zero, List.mem_flatMap]
  simp only [not_exists, not_and]

theorem linesOf_toText_of_unbroken
    {r : Report} (nonempty : r.diagnostics ≠ [])
    (unbroken : ∀ d ∈ r.diagnostics, '\n' ∉ d.message.toList) :
    linesOf r.toText = r.header :: (r.diagnostics.map (·.entry) ++ [r.totals]) := by
  rw [linesOf_toText nonempty, List.flatMap_congr fun d member =>
    Diagnostic.linesOf_entry (unbroken d member), ← List.map_eq_flatMap]

end Report

theorem unbroken_iff (document : Document) (source : String) (text : List Char) :
    (∀ d ∈ (keptRemarks text).map (Remark.diagnostic document source), '\n' ∉ d.message.toList) ↔
      ∀ v ∈ visits text, ¬ v.form.QuotesFeed := by
  have same := not_congr (someBroken_keptRemarks_iff text)
  simp only [SomeBroken, not_exists, not_and, List.forall_mem_map] at same
  rw [List.forall_mem_map]
  exact same

namespace Server

theorem answer_validateScript
    {server : Server} {script : String} {report : Report}
    (checked : (server.checker.check script).value = .ok report) :
    (server.answer (.validateScript script)).value = .ok report.toText := by
  rw [answer, runTool]
  split
  · next records other result =>
    rw [result] at checked
    rw [Except.ok.inj checked]
  · next result =>
    rw [result] at checked
    cases checked

/-- The text for a script with diagnostics has a header, which says that the script is valid
exactly when there is no error, then the entries of the diagnostics in order, and last the totals.
There is a line for each of these and one more for every line feed in a message. So there are two
lines more than diagnostics exactly when no form of the script has a line feed in its keyword, or
in the first argument where the keyword's rule quotes it, and then every entry is a line. -/
theorem validateScript_lines
    (server : Server) (script : String)
    (withinLimit : (script.toList.length : Int) ≤ server.checker.maxScriptSize) :
    ∃ report text,
      (server.checker.check script).value = .ok report ∧
      (server.answer (.validateScript script)).value = .ok text ∧
      (report.diagnostics ≠ [] →
        let n := report.diagnostics.length
        let errors := (report.diagnostics.filter (·.severity = .error)).length
        let warnings := (report.diagnostics.filter (·.severity = .warning)).length
        let totals := errors.repr ++ " error(s), " ++ warnings.repr ++ " warning(s)"
        let entry (d : Diagnostic) :=
          "  [" ++ d.severity.label ++ "] " ++ (d.span.start.line + 1).repr ++ ":" ++
            (d.span.start.character + 1).repr ++ " " ++ d.message
        let header :=
          if ∃ d ∈ report.diagnostics, d.severity = .error then "Script has validation errors:"
          else "Script is valid."
        errors + warnings = n ∧
        linesOf text =
          header :: (report.diagnostics.flatMap (fun d => linesOf (entry d)) ++ [totals]) ∧
        (linesOf text).length =
          n + 2 + (report.diagnostics.flatMap fun d => d.message.toList).count '\n' ∧
        ((linesOf text).length = n + 2 ↔ ∀ v ∈ visits script.toList, ¬ v.form.QuotesFeed) ∧
        ((∀ v ∈ visits script.toList, ¬ v.form.QuotesFeed) →
          linesOf text = header :: (report.diagnostics.map entry ++ [totals]))) := by
  have checked := server.checker.check_eq script Document.defaultUri withinLimit
  rw [toList_reportAll_remarks] at checked
  refine ⟨_, _, checked, answer_validateScript checked, ?_⟩
  intro nonempty n errors warnings totals entry header
  have sameHeader : header = Report.header _ := (Report.header_eq _).symm
  have unbroken := unbroken_iff (Document.ofText script.toList) server.checker.source script.toList
  rw [sameHeader]
  refine ⟨Report.errors_add_warnings _, Report.linesOf_toText nonempty,
    Report.length_linesOf_toText nonempty,
    (Report.length_linesOf_toText_eq_iff nonempty).trans unbroken, ?_⟩
  intro unquoted
  exact Report.linesOf_toText_of_unbroken nonempty (unbroken.mpr unquoted)

/-- Line feeds between forms and in a line of dialogue leave the entries whole. -/
theorem validateScript_lines_blank_dialogue :
    let script := "(label 1)(start 1)\n(dialogue \"\n\")(jump b)"
    let server : Server := ⟨{}, .info, .stdio⟩
    (script.toList.length : Int) ≤ server.checker.maxScriptSize ∧
    ∃ text, (server.answer (.validateScript script)).value = .ok text ∧
      linesOf text =
        ["Script has validation errors:",
          "  [warning] 1:1 Invalid label name '1'",
          "  [warning] 2:1 Empty dialogue",
          "  [error] 3:3 Jump references undefined label 'b'",
          "1 error(s), 2 warning(s)"] := by
  intro script server
  have withinLimit : (script.toList.length : Int) ≤ server.checker.maxScriptSize := by
    decide +kernel
  have found : (server.checker.check script).value = .ok ⟨
      [⟨.warning, ⟨⟨0, 0⟩, ⟨0, 9⟩⟩, "Invalid label name '1'", "vnscript"⟩,
        ⟨.warning, ⟨⟨1, 0⟩, ⟨2, 2⟩⟩, "Empty dialogue", "vnscript"⟩,
        ⟨.error, ⟨⟨2, 2⟩, ⟨2, 10⟩⟩, "Jump references undefined label 'b'", "vnscript"⟩]⟩ := by
    decide +kernel
  obtain ⟨report, text, checked, answered, lines⟩ :=
    validateScript_lines server script withinLimit
  rw [found] at checked
  cases checked
  obtain ⟨_, _, _, _, whole⟩ := lines (by simp)
  exact ⟨withinLimit, text, answered, (whole (by decide +kernel)).trans (by decide +kernel)⟩

/-- The message about an undefined target is broken by the line feed in the target, so that one
diagnostic takes two lines. -/
theorem validateScript_broken_line :
    let script := "(start a)(label a)(jump \"b\nc\")"
    let server : Server := ⟨{}, .info, .stdio⟩
    (script.toList.length : Int) ≤ server.checker.maxScriptSize ∧
    ∃ d text, (server.checker.check script).value = .ok ⟨[d]⟩ ∧
      (server.answer (.validateScript script)).value = .ok text ∧
      linesOf text =
        ["Script has validation errors:",
          "  [error] 1:19 Jump references undefined label '\"b",
          "c\"'",
          "1 error(s), 0 warning(s)"] ∧
      (linesOf text).length ≠ 1 + 2 := by
  intro script server
  have found : (server.checker.check script).value = .ok ⟨[⟨.error, ⟨⟨0, 18⟩, ⟨1, 3⟩⟩,
      "Jump references undefined label '\"b\nc\"'", "vnscript"⟩]⟩ := by decide +kernel
  exact ⟨by decide +kernel, _, _, found, answer_validateScript found, by decide +kernel,
    by decide +kernel⟩

end Server

end StoryScript
