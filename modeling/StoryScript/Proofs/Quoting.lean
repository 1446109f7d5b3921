import StoryScript.Proofs.Declarations
import StoryScript.Proofs.TokenSplit

/-!
# Quoted tokens

Whether a token is quoted is decided by its first and its last character, and nothing is asked of
the characters between them. For the tokens of a text this is enough. A token that begins with a
quote is a literal, which ends at the next quote, or a run behind whose first character no other
quote comes, and such a run cannot end with a quote. So quoted tokens are literals, and the rule
of dialogue asks for a quote behind the keyword that is closed before the form is.
-/

namespace StoryScript

/-! ### Literals among the tokens -/

theorem eq_quoted_iff (token line : String) :
    token = "\"" ++ line ++ "\"" ↔ token.toList = '"' :: (line.toList ++ ['"']) := by
  rw [← String.toList_inj, String.toList_append, String.toList_append]
  rfl

theorem literal?_eq_some_iff (token line : String) :
    literal? token = some line ↔ token = "\"" ++ line ++ "\"" := by
  rw [eq_quoted_iff]
  constructor
  · intro quoted
    unfold literal? at quoted
    split at quoted
    case h_2 => cases quoted
    case h_1 rest split =>
      split at quoted
      case isFalse => cases quoted
      case isTrue closed =>
        obtain ⟨inner, rfl⟩ := List.getLast?_eq_some_iff.mp closed
        rw [List.dropLast_concat, Option.some.injEq] at quoted
        rw [split, ← quoted, String.toList_ofList]
  · intro split
    rw [literal?, split]
    simp

theorem isQuoted_iff (token : String) :
    isQuoted token = true ↔ ∃ line, literal? token = some line :=
  Option.isSome_iff_exists

theorem unquote_of_literal {token line : String} (quoted : literal? token = some line) :
    unquote token = line := by
  rw [unquote, quoted, Option.getD_some]

theorem unquote_of_not_isQuoted {token : String} (unquoted : isQuoted token = false) :
    unquote token = token := by
  rw [unquote, Option.not_isSome_iff_eq_none.mp (Bool.eq_false_iff.mp unquoted), Option.getD_none]

theorem exists_isToken_of_mem
    {content : List Char} {split : List String} (splits : SplitsInto content split)
    {token : String} (member : token ∈ split) : ∃ rest, IsToken token.toList rest := by
  obtain ⟨lead, pieces, _, rfl, _, _, areTokens⟩ := splits
  obtain ⟨p, isPiece, rfl⟩ := List.mem_map.mp member
  obtain ⟨before, after, parts⟩ := List.append_of_mem isPiece
  exact ⟨_, areTokens before p after parts⟩

/-- There is no quote between the quotes of a token. -/
theorem IsToken.unquoted_line {rest : List Char} {token line : String}
    (isToken : IsToken token.toList rest) (quoted : token = "\"" ++ line ++ "\"") :
    '"' ∉ line.toList := by
  have characters := (eq_quoted_iff token line).mp quoted
  rcases isToken with ⟨inner, split, noQuote⟩ | run
  · have same := (List.cons.inj (characters.symm.trans split)).2
    rwa [List.append_cancel_right same]
  · exact absurd (by simp) (run.unclosed _ characters)

theorem isQuoted_iff_of_mem_tokens
    {content : List Char} {token : String} (member : token ∈ tokens content) :
    isQuoted token = true ↔ ∃ line, token = "\"" ++ line ++ "\"" ∧ '"' ∉ line.toList := by
  obtain ⟨rest, isToken⟩ := exists_isToken_of_mem (splitsInto_tokens content) member
  rw [isQuoted_iff]
  apply exists_congr
  intro line
  rw [literal?_eq_some_iff]
  exact (and_iff_left_of_imp isToken.unquoted_line).symm

/-! ### Quoted dialogue -/

/-- Behind blanks and the keyword the first visible character is a quote, and another quote
follows it. -/
def QuotedBehind (keyword : String) (content : List Char) : Prop :=
  ∃ lead gap more, content = lead ++ (keyword.toList ++ (gap ++ '"' :: more)) ∧
    (∀ c ∈ lead, isBlank c = true) ∧ (∀ c ∈ gap, isBlank c = true) ∧ '"' ∈ more

/-- Content begins with its keyword in one way only, since a keyword has no blank in front. -/
theorem rest_eq_of_keyword
    {lead lead' rest rest' : List Char} (k : Keyword)
    (blank : ∀ c ∈ lead, isBlank c = true) (blank' : ∀ c ∈ lead', isBlank c = true)
    (same : lead ++ (k.name.toList ++ rest) = lead' ++ (k.name.toList ++ rest')) :
    rest = rest' := by
  have dropped := congrArg (List.dropWhile isBlank) same
  rw [dropWhile_run blank (k.head_name_append rest),
    dropWhile_run blank' (k.head_name_append rest')] at dropped
  exact List.append_cancel_left dropped

/-- The first argument of a form is quoted exactly when a quote stands behind the keyword and is
closed inside the form. -/
theorem isQuoted_arg_iff
    {content : List Char} {form : Form} (read : Form.ofContent? content = some form)
    {k : Keyword} (named : form.keyword = k.name) :
    isQuoted (form.arg 0) = true ↔ QuotedBehind form.keyword content := by
  have splits := splitsInto_tokens content
  rw [(ofContent?_eq_some_iff content form).mp read] at splits
  obtain ⟨lead, rest, whole, blank, _, further⟩ := (splitsInto_cons_iff _ _ _).mp splits
  constructor
  · intro quoted
    cases args : form.args with
    | nil =>
        rw [Form.arg, args] at quoted
        exact absurd quoted (by decide)
    | cons first others =>
        have isFirst : form.arg 0 = first := by rw [Form.arg, args, List.getD_cons_zero]
        rw [isFirst] at quoted
        obtain ⟨line, quoted⟩ := (isQuoted_iff first).mp quoted
        rw [args] at further
        obtain ⟨gap, behind, rfl, gapBlank, _⟩ := (splitsInto_cons_iff _ _ _).mp further
        refine ⟨lead, gap, line.toList ++ '"' :: behind, ?_, blank, gapBlank, by simp⟩
        rw [whole, (eq_quoted_iff first line).mp ((literal?_eq_some_iff first line).mp quoted)]
        simp only [List.cons_append, List.append_assoc, List.nil_append]
  · rintro ⟨lead', gap, more, whole', blank', gapBlank, closed⟩
    -- The keyword is cut off at the same place in both, so the same text follows it.
    rw [named] at whole whole'
    obtain rfl := rest_eq_of_keyword k blank blank' (whole.symm.trans whole')
    obtain ⟨line, behind, rfl, noQuote⟩ := List.eq_append_cons_of_mem closed
    have args := eq_tokens_of_splitsInto further
    rw [tokens_blanks_append gapBlank, tokens_literal_append noQuote] at args
    have isLiteral : (form.arg 0).toList = '"' :: ((String.ofList line).toList ++ ['"']) := by
      rw [Form.arg, args, List.getD_cons_zero, String.toList_ofList, String.toList_ofList]
    apply (isQuoted_iff _).mpr
    exact ⟨_, (literal?_eq_some_iff _ _).mpr ((eq_quoted_iff _ _).mpr isLiteral)⟩

theorem Form.unquotedDialogue_mem_findings_iff
    (labels : List String) {form : Form} (isDialogue : form.keyword = Keyword.dialogue.name) :
    .unquotedDialogue ∈ form.findings labels ↔ isQuoted (form.arg 0) = false := by
  rw [mem_findings_iff]
  constructor
  · rintro (_ | _)
    assumption
  · exact .unquotedDialogue isDialogue

/-! ### What an inspection reports of a form -/

theorem Visit.eq_of_opener
    {text : List Char} {v w : Visit} (visited : v ∈ visits text) (visited' : w ∈ visits text)
    (same : v.pair.opener = w.pair.opener) : v = w := by
  obtain ⟨paired, read⟩ := (mem_visits_iff text v).mp visited
  obtain ⟨paired', read'⟩ := (mem_visits_iff text w).mp visited'
  have samePair : v.pair = w.pair :=
    (matchedIn_of_mem_pairs paired).eq_of_opener (matchedIn_of_mem_pairs paired') same
  rw [samePair, read', Option.some.injEq] at read
  cases v
  cases w
  simp_all

/-- The findings of a form are reported at its own span, and no other form is reported there. -/
theorem mem_windowRemarks_at_iff
    {text : List Char} {v : Visit} (visited : v ∈ visits text)
    (labels : List String) (offset : Int) (f : Finding) :
    ⟨offset + v.pair.opener, offset + v.pair.closer + 1, f⟩ ∈ windowRemarks labels text offset ↔
      f ∈ v.form.findings labels := by
  simp only [windowRemarks, Visit.remarks, List.mem_flatMap, List.mem_map, Remark.mk.injEq]
  constructor
  · rintro ⟨w, visited', g, found, sameStart, _, rfl⟩
    have sameVisit := Visit.eq_of_opener visited' visited (by omega)
    rwa [← sameVisit]
  · intro found
    exact ⟨v, visited, f, found, rfl, rfl, rfl⟩

theorem Finding.eq_unquotedDialogue_of_message_eq {f : Finding}
    (same : f.message = Finding.unquotedDialogue.message) : f = .unquotedDialogue := by
  have sameLead := Finding.lead_eq_of_message_eq same
  cases f with
  | unquotedDialogue => rfl
  | _ => simp [Finding.lead] at sameLead

/-- An inspection of a text into an empty collector over the same text keeps all its remarks. -/
theorem toList_window_fresh
    (labels : List String) (text : List Char) (uri source : String) (count : Nat) :
    (Inspection.window ⟨labels, Collector.ofList (Document.ofText text uri) [] source, count⟩
      text).collector.diagnostics.toList =
      (windowRemarks labels text).map (Remark.diagnostic (Document.ofText text uri) source) := by
  rw [Inspection.window_eq]
  rw [Collector.toList_reportAll_of_nodup _ (windowRemarks_keys_nodup labels text uri)]
  simp only [Collector.refuses_fresh, Bool.not_false, List.filter_true]
  rfl

theorem unquotedDialogue_mem_window_iff
    {text : List Char} {v : Visit} (visited : v ∈ visits text)
    (labels : List String) (uri source : String) :
    Remark.diagnostic (Document.ofText text uri) source
        ⟨v.pair.opener, v.pair.closer + 1, .unquotedDialogue⟩ ∈
      (Inspection.window ⟨labels, Collector.ofList (Document.ofText text uri) [] source, 0⟩
        text).collector.diagnostics.toList ↔ .unquotedDialogue ∈ v.form.findings labels := by
  have inside : Remark.Inside text ⟨v.pair.opener, v.pair.closer + 1, .unquotedDialogue⟩ :=
    ⟨v.pair.opener, (Visit.opener_lt visited).le, rfl⟩
  rw [toList_window_fresh, List.mem_map]
  constructor
  · rintro ⟨r, reported, same⟩
    obtain ⟨sameStart, sameMessage⟩ :=
      (Remark.key_eq_iff (inside_of_mem_windowRemarks reported) inside).mp
        (congrArg Diagnostic.key same)
    -- The place tells which form it is, and the wording tells which finding.
    obtain ⟨w, visited', f, found, rfl⟩ := (mem_windowRemarks_iff labels text r).mp reported
    obtain rfl := Finding.eq_unquotedDialogue_of_message_eq sameMessage
    rwa [← Visit.eq_of_opener visited' visited (Int.natCast_inj.mp sameStart)]
  · intro found
    exact ⟨_, (mem_windowRemarks_iff labels text _).mpr ⟨v, visited, _, found, rfl⟩, rfl⟩

/-- A token of a form is quoted exactly when it is a literal without quotes inside, and then
unquoting it gives what the literal says; any other token stays as it is. So an inspection
reports a dialogue form as unquoted exactly when it is not so that the first visible character
behind the keyword is a quote which another one follows inside the form. It does so wherever
the text stands in a larger one and whatever the labels are, and an empty collector over the
text keeps what is reported. -/
theorem Form.quoted_tokens_are_literals :
    (∀ (content : List Char) (form : Form), ofContent? content = some form →
      ∀ token ∈ form.keyword :: form.args,
        (isQuoted token = true ↔ ∃ line, token = "\"" ++ line ++ "\"" ∧ '"' ∉ line.toList) ∧
        (∀ line, token = "\"" ++ line ++ "\"" → '"' ∉ line.toList → unquote token = line) ∧
        (isQuoted token = false → unquote token = token)) ∧
    ∀ (text : List Char) (p : Pair) (form : Form), p.MatchedIn text →
      ofContent? (p.content text.toArray) = some form → form.keyword = "dialogue" →
        (∀ (i : Inspection) (offset : Int),
          (i.window text offset).collector =
            i.collector.reportAll (windowRemarks i.labels text offset) ∧
          (⟨offset + p.opener, offset + p.closer + 1, .unquotedDialogue⟩ ∈
              windowRemarks i.labels text offset ↔
            ¬ QuotedBehind "dialogue" (p.content text.toArray))) ∧
        ∀ (labels : List String) (uri source : String),
          let document := Document.ofText text uri
          let i : Inspection := ⟨labels, Collector.ofList document [] source, 0⟩
          ⟨.error, document.span p.opener (p.closer + 1),
              "Dialogue must be enclosed in double quotes", source⟩ ∈
            (i.window text).collector.diagnostics.toList ↔
          ¬ QuotedBehind "dialogue" (p.content text.toArray) := by
  constructor
  · intro content form read token member
    rw [← (ofContent?_eq_some_iff content form).mp read] at member
    refine ⟨isQuoted_iff_of_mem_tokens member, ?_, unquote_of_not_isQuoted⟩
    intro line quoted _
    exact unquote_of_literal ((literal?_eq_some_iff token line).mpr quoted)
  · intro text p form matched read isDialogue
    have visited : ⟨p, form⟩ ∈ visits text :=
      (mem_visits_iff text ⟨p, form⟩).mpr ⟨mem_pairs_of_matchedIn matched, read⟩
    have reported : ∀ labels, .unquotedDialogue ∈ form.findings labels ↔
        ¬ QuotedBehind "dialogue" (p.content text.toArray) := by
      intro labels
      have quoted := isQuoted_arg_iff read (k := .dialogue) isDialogue
      rw [isDialogue] at quoted
      rw [Form.unquotedDialogue_mem_findings_iff labels isDialogue, ← quoted, Bool.not_eq_true]
    constructor
    · intro i offset
      refine ⟨by rw [Inspection.window_eq], ?_⟩
      exact (mem_windowRemarks_at_iff visited i.labels offset _).trans (reported i.labels)
    · intro labels uri source document i
      exact (unquotedDialogue_mem_window_iff visited labels uri source).trans (reported labels)

/-- The first line is quoted although the form goes on behind it. The quote of the second one is
not closed before the form is, but further on. -/
theorem Form.quoted_tokens_are_literals_half_closed :
    let text := "(dialogue \"a b\"(c))(dialogue \"d)\"".toList
    let first : Form := ⟨"dialogue", ["\"a b\"", "(c)"]⟩
    let second : Form := ⟨"dialogue", ["\"d"]⟩
    ofContent? ((⟨0, 18⟩ : Pair).content text.toArray) = some first ∧
    ofContent? ((⟨19, 31⟩ : Pair).content text.toArray) = some second ∧
    (∃ line, "\"a b\"" = "\"" ++ line ++ "\"" ∧ '"' ∉ line.toList) ∧
    unquote "\"a b\"" = "a b" ∧ unquote "\"d" = "\"d" ∧
    QuotedBehind "dialogue" ((⟨0, 18⟩ : Pair).content text.toArray) ∧
    ¬ QuotedBehind "dialogue" ((⟨19, 31⟩ : Pair).content text.toArray) := by
  intro text first second
  have matchedFirst : (⟨0, 18⟩ : Pair).MatchedIn text :=
    matchedIn_of_mem_pairs (by decide +kernel)
  have matchedSecond : (⟨19, 31⟩ : Pair).MatchedIn text :=
    matchedIn_of_mem_pairs (by decide +kernel)
  have readFirst : ofContent? ((⟨0, 18⟩ : Pair).content text.toArray) = some first := by
    decide +kernel
  have readSecond : ofContent? ((⟨19, 31⟩ : Pair).content text.toArray) = some second := by
    decide +kernel
  obtain ⟨literals, reported⟩ := Form.quoted_tokens_are_literals
  have literal := literals _ first readFirst "\"a b\"" (by decide)
  have run := literals _ second readSecond "\"d" (by decide)
  refine ⟨readFirst, readSecond, literal.1.mp (by decide),
    literal.2.1 "a b" (by decide) (by decide), run.2.2 (by decide), ?_, ?_⟩
  · have atFirst := (reported text _ first matchedFirst readFirst rfl).2 [] "x" "y"
    exact not_not.mp (mt atFirst.mpr (by decide +kernel))
  · have atSecond := (reported text _ second matchedSecond readSecond rfl).2 [] "x" "y"
    exact atSecond.mp (by decide +kernel)

end StoryScript
