import Mathlib.Data.List.Nodup
import StoryScript.Proofs.ClosedForm
import StoryScript.Proofs.LeftmostLabels
import StoryScript.Proofs.Seeding

/-!
# Which unquoted dialogue is reported

Unquoted dialogue that is closed is a form, and the inspection reports it. Dialogue that is never
closed is left to the search, and what the search finds goes on up to the next quote or closer,
over further openers. So unquoted dialogue is hidden from the search when an earlier one runs on
over it, with no quote and no closer between them. Unless it is closed, nothing is said about it
then; in all other cases exactly one error is reported for it.
-/

namespace StoryScript

/-! ### Unquoted lines that run on -/

/-- Neither a quote nor a closer stands from one place up to another. -/
def RunsOn (text : List Char) (start stop : Nat) : Prop :=
  ∀ index, start ≤ index → index < stop → text[index]? ≠ some '"' ∧ text[index]? ≠ some ')'

/-- An earlier unquoted line runs on over a place. -/
def Shadowed (text : List Char) (place : Nat) : Prop :=
  ∃ earlier < place, UnquotedAt text earlier ∧ RunsOn text earlier place

instance (text : List Char) (place : Nat) : Decidable (UnquotedAt text place) :=
  decidable_of_iff _ (Recognizer.unquotedDialogue_isSome_iff text place)

instance (text : List Char) (start stop : Nat) : Decidable (RunsOn text start stop) :=
  Nat.decidableLoHi start stop _

instance (text : List Char) (place : Nat) : Decidable (Shadowed text place) :=
  inferInstanceAs (Decidable (∃ earlier < place, UnquotedAt text earlier ∧
    RunsOn text earlier place))

theorem RunsOn.trans
    {text : List Char} {start middle stop : Nat} (first : RunsOn text start middle)
    (second : RunsOn text middle stop) : RunsOn text start stop := by
  intro index notBefore before
  by_cases inFirst : index < middle
  · exact first index notBefore inFirst
  · exact second index (Nat.le_of_not_lt inFirst) before

namespace Recognizer

/-- What is recognized as unquoted dialogue holds neither quotes nor closers, and one of them
follows it unless the text is at its end. -/
theorem unquotedDialogue_split
    {text : List Char} {length : Nat} {value : Unit}
    (recognized : unquotedDialogue text = some (length, value)) :
    ∃ piece rest, text = piece ++ rest ∧ piece.length = length ∧
      (∀ c ∈ piece, c ≠ '"' ∧ c ≠ ')') ∧ ∀ c ∈ rest.head?, c = '"' ∨ c = ')' := by
  unfold unquotedDialogue at recognized
  split at recognized
  case h_2 => simp at recognized
  case h_1 width rest opened =>
    obtain ⟨blanks, rfl, _, allBlanks, _, rfl⟩ := (opening_eq_some_iff _ _ _ _).mp opened
    dsimp only at recognized
    split at recognized
    case isTrue => simp at recognized
    case isFalse =>
      simp only [Option.some.injEq, Prod.mk.injEq, and_true] at recognized
      refine ⟨
        '(' :: ("dialogue".toList ++ (blanks ++ rest.takeWhile fun c => c != '"' && c != ')')),
        rest.dropWhile fun c => c != '"' && c != ')', ?_, ?_, ?_, ?_⟩
      · simp only [List.cons_append, List.append_assoc, List.takeWhile_append_dropWhile]
      · simp only [← recognized, List.length_cons, List.length_append]
        omega
      · intro c member
        rcases List.mem_cons.mp member with rfl | member
        · decide
        rcases List.mem_append.mp member with inWord | member
        · constructor
          · rintro rfl
            exact absurd inWord (by decide)
          · rintro rfl
            exact absurd inWord (by decide)
        rcases List.mem_append.mp member with inBlanks | inLine
        · constructor
          · rintro rfl
            exact absurd (allBlanks _ inBlanks) (by decide)
          · rintro rfl
            exact absurd (allBlanks _ inBlanks) (by decide)
        · simpa using List.all_eq_true.mp List.all_takeWhile c inLine
      · intro c next
        have stops := dropWhile_stops (fun c => c != '"' && c != ')') rest c next
        simpa [Classical.or_iff_not_imp_left] using stops

/-- The openers inside a listed occurrence are those over which it runs on. -/
theorem lt_stop_iff_runsOn
    {text : List Char} {o : Occurrence Unit} (listed : o ∈ unquotedDialogue.occurrences text)
    {place : Nat} (opens : text[place]? = some '(') :
    place < o.stop ↔ RunsOn text o.start place := by
  obtain ⟨piece, rest, split, width, unbroken, stops⟩ :=
    unquotedDialogue_split (unquotedDialogue.recognized_of_mem_occurrences listed).2
  have fromStart : ∀ distance, text[o.start + distance]? = (piece ++ rest)[distance]? := by
    intro distance
    rw [← split, List.getElem?_drop]
  constructor
  · intro inside index afterStart beforePlace
    obtain ⟨distance, rfl⟩ := Nat.exists_eq_add_of_le afterStart
    have inPiece : distance < piece.length := by
      rw [Occurrence.stop] at inside
      omega
    rw [fromStart, List.getElem?_append_left inPiece, List.getElem?_eq_getElem inPiece]
    have solid := unbroken _ (List.getElem_mem inPiece)
    simpa using solid
  · intro runsOn
    apply Nat.lt_of_not_le
    intro beyond
    -- What follows the occurrence is a quote or a closer, at the place or in front of it.
    have next : ∀ c, text[o.stop]? = some c → c = '"' ∨ c = ')' := by
      intro c read
      rw [Occurrence.stop, fromStart, ← width, List.getElem?_append_right (Nat.le_refl _),
        Nat.sub_self, ← List.head?_eq_getElem?] at read
      exact stops c read
    rcases Nat.eq_or_lt_of_le beyond with same | before
    · rw [← same] at opens
      exact absurd (next '(' opens) (by decide)
    · have inText : o.stop < text.length :=
        Nat.lt_trans before (List.getElem?_eq_some_iff.mp opens).1
      obtain ⟨notQuote, notCloser⟩ := runsOn o.stop (Nat.le_add_right _ _) before
      rw [List.getElem?_eq_getElem inText] at notQuote notCloser
      rcases next _ (List.getElem?_eq_getElem inText) with quote | closer
      · exact notQuote (congrArg some quote)
      · exact notCloser (congrArg some closer)

/-- The search lists all unquoted dialogue over which no earlier line runs on. -/
theorem mem_unquotedDialogue_starts_iff
    {text : List Char} {place : Nat} (unquoted : UnquotedAt text place) :
    (∃ o ∈ unquotedDialogue.occurrences text, o.start = place) ↔ ¬ Shadowed text place := by
  have around : ∀ {place : Nat}, UnquotedAt text place →
      ∃ o ∈ unquotedDialogue.occurrences text,
        o.start = place ∨ o.start < place ∧ place < o.stop := fun unquoted =>
    unquotedDialogue.exists_occurrence_around unquoted.lt_length
      ((unquotedDialogue_isSome_iff _ _).mpr unquoted)
  constructor
  · rintro ⟨o, listed, rfl⟩ ⟨earlier, before, unquotedEarlier, runsOn⟩
    -- The occurrence at or around the earlier line runs on over `o`, which is listed as well.
    obtain ⟨q, listedEarlier, position⟩ := around unquotedEarlier
    have notBehind : q.start ≤ earlier := by omega
    have upToEarlier : RunsOn text q.start earlier := by
      rcases position with same | ⟨_, inside⟩
      · intro index notBefore beforeEarlier
        omega
      · exact (lt_stop_iff_runsOn listedEarlier unquotedEarlier.opens).mp inside
    have inside : o.start < q.stop :=
      (lt_stop_iff_runsOn listedEarlier unquoted.opens).mpr (upToEarlier.trans runsOn)
    have different : q ≠ o := by
      rintro rfl
      omega
    rcases unquotedDialogue.occurrences_apart listedEarlier listed different with
      ⟨_, stopped⟩ | ⟨reversed, _⟩ <;> omega
  · intro notShadowed
    obtain ⟨o, listed, same | ⟨before, inside⟩⟩ := around unquoted
    · exact ⟨o, listed, same⟩
    · have runsOn := (lt_stop_iff_runsOn listed unquoted.opens).mp inside
      exact absurd ⟨o.start, before, unquotedAt_of_mem_occurrences listed, runsOn⟩ notShadowed

end Recognizer

/-! ### What a run keeps of each issue -/

theorem Diagnostic.length_filter_issue
    (diagnostics : List Diagnostic) (start : Position) (message : String) :
    (diagnostics.filter fun d => d.message = message ∧ d.span.start = start).length =
      (diagnostics.map (·.key)).count ⟨start, message⟩ := by
  rw [← List.countP_eq_length_filter, List.count, List.countP_map]
  apply List.countP_congr
  intro d _
  simp [key, and_comm]

namespace Collector

/-- A collector never comes to hold an issue twice. -/
theorem keys_nodup_reportAll
    {c : Collector} (keyed : c.Keyed) (different : (c.diagnostics.toList.map (·.key)).Nodup)
    (remarks : List Remark) :
    ((c.reportAll remarks).diagnostics.toList.map (·.key)).Nodup := by
  induction remarks generalizing c with
  | nil => exact different
  | cons r rest inductionHypothesis =>
      apply inductionHypothesis (c := c.report r.start r.stop r.finding) (keyed.add _ _ _ _)
      cases refused : c.refuses r with
      | true =>
          rw [report_of_refuses refused]
          exact different
      | false =>
          have fresh : r.key c.document ∉ c.diagnostics.toList.map (·.key) := by
            rw [← keyed]
            exact Bool.eq_false_iff.mp refused
          rw [report_of_not_refuses refused, Array.toList_push, List.map_append,
            List.map_singleton, Remark.key_diagnostic, ← List.concat_eq_append]
          exact different.concat fresh

/-- A collector that held nothing holds each issue that it was told of once. -/
theorem count_key_fresh
    (document : Document) (source : String) (remarks : List Remark) (k : Diagnostic.Key) :
    (((ofList document [] source).reportAll remarks).diagnostics.toList.map (·.key)).count k =
      if k ∈ remarks.map (Remark.key document) then 1 else 0 := by
  have keyed : (ofList document [] source).Keyed := keyed_ofList document [] source
  have different := keys_nodup_reportAll keyed List.nodup_nil remarks
  have told : k ∈ ((ofList document [] source).reportAll remarks).diagnostics.toList.map (·.key) ↔
      k ∈ remarks.map (Remark.key document) := by
    rw [← keyed.reportAll remarks, contains_seen_reportAll]
    exact or_iff_left (by simp [ofList])
  rw [different.count]
  simp only [told]

end Collector

/-- A validation tells of unquoted dialogue where it is closed and where no earlier line runs on
over it. -/
theorem unquoted_key_mem_remarks_iff
    {text : List Char} (uri : String) {place : Nat} (unquoted : UnquotedAt text place) :
    ⟨(Document.ofText text uri).positionAt place, Finding.unquotedDialogue.message⟩ ∈
      (remarks text).map (Remark.key (Document.ofText text uri)) ↔
        Closed text place ∨ ¬ Shadowed text place := by
  rw [remarks, List.map_append, List.mem_append, unquoted_key_mem_firstRemarks_iff uri unquoted,
    ← Recognizer.mem_unquotedDialogue_starts_iff unquoted, dialogueRemarks, List.map_map,
    List.mem_map]
  apply or_congr_right
  apply exists_congr
  intro o
  apply and_congr_right
  intro listed
  have inside := (Recognizer.unquotedDialogue.recognized_of_mem_occurrences listed).1.le
  rw [← Document.positionAt_ofText_inj inside unquoted.lt_length.le, Function.comp_apply,
    Remark.key, Diagnostic.Key.mk.injEq]
  exact and_iff_left rfl

/-- Of unquoted dialogue, wherever it stands in a script within the size limit, a check reports
exactly one error if it is closed or if no earlier unquoted line runs on over it, and otherwise
none. -/
theorem Checker.check_unquoted_once
    (checker : Checker) (script uri : String)
    (withinLimit : (script.toList.length : Int) ≤ checker.maxScriptSize) :
    let text := script.toList
    let document := Document.ofText text uri
    ∃ report, (checker.check script uri).value = .ok report ∧
      ∀ place, UnquotedAt text place →
        let told := report.diagnostics.filter fun d =>
          d.message = "Dialogue must be enclosed in double quotes" ∧
            d.span.start = document.positionAt place
        (∀ d ∈ told, d.severity = .error) ∧
        told.length = if Closed text place ∨ ¬ Shadowed text place then 1 else 0 := by
  intro text document
  refine ⟨_, checker.check_eq script uri withinLimit, ?_⟩
  intro place unquoted told
  constructor
  · intro d member
    obtain ⟨held, worded⟩ := List.mem_filter.mp member
    obtain ⟨r, _, rfl⟩ := Collector.exists_remark_of_mem_fresh held
    exact Finding.severity_eq_of_message_eq (g := .unquotedDialogue) (of_decide_eq_true worded).1
  · have counted := Collector.count_key_fresh document checker.source (remarks text)
      ⟨document.positionAt place, Finding.unquotedDialogue.message⟩
    rw [← Diagnostic.length_filter_issue] at counted
    exact counted.trans (if_congr (unquoted_key_mem_remarks_iff uri unquoted) rfl rfl)

/-- The first line runs on over the second one, which is closed and reported all the same. The
third line runs on over the last one, of which nothing is said. -/
theorem Checker.check_unquoted_once_nested :
    let script := "(dialogue a (dialogue b)(dialogue c (dialogue d"
    let text := script.toList
    let told := fun (report : Report) (place : Nat) => report.diagnostics.filter fun d =>
      d.message = "Dialogue must be enclosed in double quotes" ∧
        d.span.start = (Document.ofText text "x").positionAt place
    (text.length : Int) ≤ ({} : Checker).maxScriptSize ∧
    (∀ place ∈ [12, 24, 36], UnquotedAt text place) ∧
    (Shadowed text 12 ∧ Closed text 12) ∧ (¬ Shadowed text 24 ∧ ¬ Closed text 24) ∧
    (Shadowed text 36 ∧ ¬ Closed text 36) ∧
    ∃ report, (({} : Checker).check script "x").value = .ok report ∧
      (told report 12).length = 1 ∧ (told report 24).length = 1 ∧ (told report 36).length = 0 := by
  intro script text told
  have withinLimit : (text.length : Int) ≤ ({} : Checker).maxScriptSize := by decide +kernel
  have unquoted : ∀ place ∈ [12, 24, 36], UnquotedAt text place := by decide +kernel
  have second : Shadowed text 12 ∧ Closed text 12 := by decide +kernel
  have third : ¬ Shadowed text 24 ∧ ¬ Closed text 24 := by decide +kernel
  have last : Shadowed text 36 ∧ ¬ Closed text 36 := by decide +kernel
  obtain ⟨report, checked, once⟩ := Checker.check_unquoted_once {} script "x" withinLimit
  refine ⟨withinLimit, unquoted, second, third, last, report, checked, ?_, ?_, ?_⟩
  · exact (once 12 (unquoted 12 (by simp))).2.trans (if_pos (.inl second.2))
  · exact (once 24 (unquoted 24 (by simp))).2.trans (if_pos (.inr third.1))
  · exact (once 36 (unquoted 36 (by simp))).2.trans
      (if_neg (not_or.mpr ⟨last.2, not_not.mpr last.1⟩))

/-- Of two lines that are never closed, the first one runs on over the second one, which is not
reported. -/
theorem Checker.check_unquoted_missed :
    let script := "(dialogue a (dialogue b"
    let text := script.toList
    (text.length : Int) ≤ ({} : Checker).maxScriptSize ∧ UnquotedAt text 12 ∧
    ∃ report, (({} : Checker).check script "x").value = .ok report ∧
      report.diagnostics.filter (fun d =>
        d.message = "Dialogue must be enclosed in double quotes" ∧
          d.span.start = (Document.ofText text "x").positionAt 12) = [] := by
  intro script text
  have withinLimit : (text.length : Int) ≤ ({} : Checker).maxScriptSize := by decide +kernel
  refine ⟨withinLimit, by decide +kernel, _, Checker.check_eq {} script "x" withinLimit, ?_⟩
  decide +kernel

end StoryScript
