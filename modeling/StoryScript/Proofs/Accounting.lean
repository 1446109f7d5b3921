import Mathlib.Data.List.Infix
import Mathlib.Order.Bounds.Basic
import Mathlib.Order.MinMax
import StoryScript.Proofs.ClosedForm
import StoryScript.Proofs.Seeding
import StoryScript.Proofs.VisitOrder

/-!
# Where every parenthesis of a text goes

Each opener is paired or stays pending, and each closer is paired or a stray. The strays of a
text are as many as the closers in excess at its worst beginning, which settles all three
numbers. A validation compares the counts of openers and closers only, so it reports a mismatch
exactly when strays and pending openers differ in number, and nothing when they cancel out.
-/

namespace StoryScript

/-- By how many the closers of a text outnumber its openers. -/
def excess (text : List Char) : Int := text.count ')' - text.count '('

/-- The greatest excess among all beginnings of a text; that of the empty one is zero. -/
def greatestExcess (text : List Char) : Int := (text.inits.map excess).foldl max 0

theorem greatestExcess_concat (text : List Char) (c : Char) :
    greatestExcess (text ++ [c]) = max (greatestExcess text) (excess (text ++ [c])) := by
  simp [greatestExcess, List.inits_append, List.foldl_append]

namespace Pairing

/-- What is in excess are the strays, less the pending openers. -/
theorem excess_eq (text : List Char) :
    excess text = (ofText text).strays - (ofText text).pending.length := by
  rw [excess, count_opener, count_closer]
  omega

/-- A character adds a stray exactly when the excess has never been as great before. -/
theorem strays_concat (text : List Char) (c : Char) :
    ((ofText (text ++ [c])).strays : Int) =
      max ((ofText text).strays : Int) (excess (text ++ [c])) := by
  rw [excess_eq]
  rcases (ofText text).step_cases c with
    ⟨_, result⟩ | ⟨_, _, result⟩ | ⟨_, _, _, _, result⟩ | ⟨_, _, result⟩
  all_goals
    rw [ofText_concat, result]
    dsimp only [List.length_nil]
    omega

theorem strays_eq_greatestExcess (text : List Char) :
    ((ofText text).strays : Int) = greatestExcess text := by
  induction text using List.reverseRecOn with
  | nil => rfl
  | append_singleton text c inductionHypothesis =>
      rw [strays_concat, greatestExcess_concat, inductionHypothesis]

theorem strays_le_of_prefix {beginning text : List Char} (begins : beginning <+: text) :
    (ofText beginning).strays ≤ (ofText text).strays := by
  obtain ⟨rest, rfl⟩ := begins
  exact strays_le_append beginning rest

theorem excess_le_strays {beginning text : List Char} (begins : beginning <+: text) :
    excess beginning ≤ (ofText text).strays := by
  have covered := excess_eq beginning
  have grown := strays_le_of_prefix begins
  omega

end Pairing

theorem greatestExcess_isGreatest (text : List Char) :
    IsGreatest (excess '' {beginning | beginning <+: text}) (greatestExcess text) := by
  constructor
  · induction text using List.reverseRecOn with
    | nil => exact ⟨[], List.prefix_rfl, rfl⟩
    | append_singleton text c inductionHypothesis =>
        rw [greatestExcess_concat]
        rcases max_choice (greatestExcess text) (excess (text ++ [c])) with before | whole
        · rw [before]
          obtain ⟨beginning, begins, same⟩ := inductionHypothesis
          exact ⟨beginning, begins.trans (List.prefix_append _ _), same⟩
        · rw [whole]
          exact ⟨text ++ [c], List.prefix_rfl, rfl⟩
  · rintro _ ⟨beginning, begins, rfl⟩
    rw [← Pairing.strays_eq_greatestExcess]
    exact Pairing.excess_le_strays begins

/-! ### Texts in which every parenthesis is paired -/

/-- Every opener and every closer of a text belongs to a pair. -/
def AllPaired (text : List Char) : Prop :=
  ∀ index : Nat,
    (text[index]? = some '(' → ∃ p ∈ pairs text, p.opener = index) ∧
    (text[index]? = some ')' → ∃ p ∈ pairs text, p.closer = index)

/-- Where there are strays, the text before the first one is balanced. -/
theorem exists_stray {text : List Char} (strays : (Pairing.ofText text).strays ≠ 0) :
    ∃ before after, text = before ++ ')' :: after ∧ Balanced before := by
  have longer : ∀ {text : List Char} (c : Char),
      (∃ before after, text = before ++ ')' :: after ∧ Balanced before) →
      ∃ before after, text ++ [c] = before ++ ')' :: after ∧ Balanced before := by
    rintro _ c ⟨before, after, rfl, balanced⟩
    exact ⟨before, after ++ [c], by simp, balanced⟩
  induction text using Pairing.textInduction with
  | nil => exact absurd rfl strays
  | opener text inductionHypothesis =>
      rw [Pairing.ofText_opener] at strays
      exact longer _ (inductionHypothesis strays)
  | stray text pending inductionHypothesis =>
      by_cases noStrays : (Pairing.ofText text).strays = 0
      · exact ⟨text, [], rfl, (Pairing.balanced_iff text).mpr ⟨noStrays, pending⟩⟩
      · exact longer _ (inductionHypothesis noStrays)
  | closer text top others pending inductionHypothesis =>
      rw [Pairing.ofText_closer pending] at strays
      exact longer _ (inductionHypothesis strays)
  | other text c notOpener notCloser inductionHypothesis =>
      rw [Pairing.ofText_other text notOpener notCloser] at strays
      exact longer _ (inductionHypothesis strays)

/-- A closer in a text without strays finds an opener on the stack. -/
theorem exists_pair_of_closer
    {text : List Char} (noStrays : (Pairing.ofText text).strays = 0) {index : Nat}
    (closes : text[index]? = some ')') : ∃ p ∈ pairs text, p.closer = index := by
  cases pending : (Pairing.ofText (text.take index)).pending with
  | nil =>
      obtain ⟨inside, isCloser⟩ := List.getElem?_eq_some_iff.mp closes
      have begins : text.take index ++ [')'] <+: text := by
        rw [← isCloser, ← List.take_succ_eq_append_getElem inside]
        exact List.take_prefix _ _
      have fewer := Pairing.strays_le_of_prefix begins
      rw [Pairing.ofText_stray pending, noStrays] at fewer
      exact absurd fewer (Nat.not_succ_le_zero _)
  | cons top others =>
      have taken : Pair.TakenIn text ⟨top, index⟩ := ⟨closes, by rw [pending, List.head?_cons]⟩
      exact ⟨⟨top, index⟩, mem_pairs_of_matchedIn taken.matchedIn, rfl⟩

/-- The opener on top of the stack at the end is in no pair: the text behind it is balanced, so
there is no closer for it. -/
theorem not_closed_of_pending
    {text : List Char} {top : Nat} {others : List Nat}
    (pending : (Pairing.ofText text).pending = top :: others) :
    text[top]? = some '(' ∧ ¬ Closed text top := by
  have waiting := Pairing.waiting_pending text
  rw [pending] at waiting
  cases waiting with
  | @push before inner _ waiting balanced =>
      refine ⟨by simp, ?_⟩
      rintro ⟨p, matched, isTop⟩
      obtain ⟨before', content, after, split, rfl, contentBalanced⟩ :=
        (Pair.matchedIn_iff_split _ _).mp matched
      obtain ⟨_, behind⟩ := List.append_inj split isTop.symm
      rw [(List.cons.inj behind).2] at balanced
      exact contentBalanced.not_closer_inside balanced

/-- Every parenthesis is paired exactly when the pass leaves nothing over. -/
theorem allPaired_iff (text : List Char) :
    AllPaired text ↔ (Pairing.ofText text).strays = 0 ∧ (Pairing.ofText text).pending = [] := by
  constructor
  · intro paired
    constructor
    · apply Classical.byContradiction
      intro strays
      obtain ⟨before, after, rfl, balanced⟩ := exists_stray strays
      obtain ⟨p, found, isStray⟩ := (paired before.length).2 (by simp)
      have taken := (matchedIn_of_mem_pairs found).takenIn.2
      rw [isStray, List.take_left, balanced.nonePending] at taken
      exact absurd taken (by simp)
    · cases pending : (Pairing.ofText text).pending with
      | nil => rfl
      | cons top others =>
          obtain ⟨opens, notClosed⟩ := not_closed_of_pending pending
          obtain ⟨p, found, isTop⟩ := (paired top).1 opens
          exact absurd ⟨p, matchedIn_of_mem_pairs found, isTop⟩ notClosed
  · rintro ⟨noStrays, nonePending⟩ index
    constructor
    · intro opens
      obtain ⟨p, matched, isOpener⟩ := closed_of_nonePending nonePending opens
      exact ⟨p, mem_pairs_of_matchedIn matched, isOpener⟩
    · exact exists_pair_of_closer noStrays

/-! ### The mismatch that a validation reports -/

/-- How a diagnostic about mismatched parentheses begins, whatever it counts. -/
def mismatchWords : String := "Mismatched parentheses: "

def Diagnostic.isMismatch (d : Diagnostic) : Bool :=
  mismatchWords.toList.isPrefixOf d.message.toList

theorem Remark.isMismatch_unbalanced
    (document : Document) (source : String) (start stop : Int) (opening closing : Nat) :
    (Remark.diagnostic document source ⟨start, stop, .unbalanced opening closing⟩).isMismatch =
      true := by
  apply List.isPrefixOf_iff_prefix.mpr
  apply Finding.starts_append
  apply Finding.starts_append
  apply Finding.starts_append
  apply Finding.starts_append
  exact List.prefix_rfl

/-- Only findings of that kind are worded like a mismatch. -/
theorem Remark.lead_of_isMismatch
    {document : Document} {source : String} {r : Remark}
    (worded : (r.diagnostic document source).isMismatch = true) :
    r.finding.lead = "Mismatched p" := by
  apply String.toList_injective
  have first := List.prefix_iff_eq_take.mp r.finding.lead_starts_message
  obtain ⟨rest, message⟩ : mismatchWords.toList <+: r.finding.message.toList :=
    List.isPrefixOf_iff_prefix.mp worded
  rw [first, Finding.length_lead, ← message, List.take_append_of_le_length (by decide)]
  decide

/-- What the passes after the first one report, in order. -/
def laterRemarks (text : List Char) : List Remark :=
  windowRemarks (declaredLabels text) text ++ startRemarks text ++ dialogueRemarks text

theorem remarks_eq_balance_append (text : List Char) :
    remarks text = balanceRemarks text ++ laterRemarks text := by
  simp only [remarks, firstRemarks, laterRemarks, List.append_assoc]

theorem lead_ne_of_mem_laterRemarks
    {text : List Char} {r : Remark} (reported : r ∈ laterRemarks text) :
    r.finding.lead ≠ "Mismatched p" := by
  intro isMismatch
  rw [laterRemarks, List.mem_append, List.mem_append] at reported
  rcases reported with (window | start) | dialogue
  · have lead := lead_of_mem_windowRemarks window
    rw [isMismatch] at lead
    exact absurd lead (by decide)
  · have lead := lead_of_mem_startRemarks start
    rw [isMismatch] at lead
    exact absurd lead (by decide)
  · obtain ⟨o, _, rfl⟩ := List.mem_map.mp dialogue
    exact absurd isMismatch (by simp [dialogueRemark, Finding.lead])

/-- A run over remarks that are not worded in a certain way adds no diagnostic that is. -/
theorem Collector.filter_reportAll
    (worded : Diagnostic → Bool) (c : Collector) {remarks : List Remark}
    (none : ∀ r ∈ remarks, worded (r.diagnostic c.document c.source) = false) :
    (c.reportAll remarks).diagnostics.toList.filter worded =
      c.diagnostics.toList.filter worded := by
  induction remarks generalizing c with
  | nil => rfl
  | cons r rest inductionHypothesis =>
      obtain ⟨notThis, notLater⟩ := List.forall_mem_cons.mp none
      rw [reportAll_cons, inductionHypothesis _ (by rwa [document_report, source_report]),
        toList_report]
      split
      · rfl
      · rw [List.filter_append, List.filter_singleton, notThis]
        simp

/-- Into nothing at hand, a validation reports a mismatch exactly when the first pass does. -/
theorem filter_isMismatch_validateInto
    (text : List Char) (document : Document) (source : String) :
    (validateInto text document [] source).filter Diagnostic.isMismatch =
      (balanceRemarks text).map (Remark.diagnostic document source) := by
  have noneLater : ∀ r ∈ laterRemarks text,
      (r.diagnostic document source).isMismatch = false := by
    intro r reported
    apply Bool.eq_false_iff.mpr
    intro worded
    exact lead_ne_of_mem_laterRemarks reported (Remark.lead_of_isMismatch worded)
  rw [validateInto_eq, remarks_eq_balance_append, Collector.reportAll_append,
    Collector.filter_reportAll]
  · unfold balanceRemarks
    split
    · rfl
    · rw [Collector.reportAll_cons, Collector.reportAll_nil, Collector.toList_report,
        Collector.refuses_fresh]
      exact List.filter_cons_of_pos (Remark.isMismatch_unbalanced document source 0 1 _ _)
  · rw [Collector.document_reportAll, Collector.source_reportAll]
    exact noneLater

/-- Of a text with given numbers of openers and closers, the strays are the greatest excess of
closers among its beginnings, and the other closers are paired, so the openers that stay pending
are as many as are left. A validation reports one mismatch, at the first character, exactly when
there are not as many strays as pending openers. Every parenthesis is paired exactly when no
mismatch is reported and no beginning has closers in excess. -/
theorem parentheses_accounted (text : List Char) :
    let s := Pairing.ofText text
    let opening := text.count '('
    let closing := text.count ')'
    let d := greatestExcess text
    IsGreatest (excess '' {beginning | beginning <+: text}) d ∧
    (s.strays : Int) = d ∧
    ((pairs text).length : Int) = closing - d ∧
    (s.pending.length : Int) = opening - closing + d ∧
    ∀ (document : Document) (source : String),
      let mismatches := (validateInto text document [] source).filter Diagnostic.isMismatch
      mismatches =
        (if s.strays = s.pending.length then []
        else [⟨.error, document.span 0 1,
          "Mismatched parentheses: " ++ opening.repr ++ " opening, " ++ closing.repr ++ " closing",
          source⟩]) ∧
      (AllPaired text ↔ mismatches = [] ∧ d = 0) := by
  intro s opening closing d
  have openers : opening = s.pending.length + s.pairs.size := Pairing.count_opener text
  have closers : closing = s.strays + s.pairs.size := Pairing.count_closer text
  have strays : (s.strays : Int) = d := Pairing.strays_eq_greatestExcess text
  have found : (pairs text).length = s.pairs.size := Array.length_toList
  have balanced : opening = closing ↔ s.strays = s.pending.length := by omega
  refine ⟨greatestExcess_isGreatest text, strays, by omega, by omega, ?_⟩
  intro document source mismatches
  have reported : mismatches =
      if s.strays = s.pending.length then []
      else [⟨.error, document.span 0 1, (Finding.unbalanced opening closing).message, source⟩] := by
    rw [← if_congr balanced rfl rfl]
    change (validateInto text document [] source).filter Diagnostic.isMismatch = _
    rw [filter_isMismatch_validateInto, balanceRemarks]
    split <;> rfl
  have paired : AllPaired text ↔ s.strays = 0 ∧ s.pending.length = 0 := by
    rw [allPaired_iff, List.length_eq_zero_iff]
  refine ⟨reported, ?_⟩
  rw [paired, reported, ite_eq_left_iff]
  constructor
  · rintro ⟨noStrays, nonePending⟩
    exact ⟨fun different => absurd (noStrays.trans nonePending.symm) different, by omega⟩
  · rintro ⟨noMismatch, noExcess⟩
    have noStrays : s.strays = 0 := by omega
    refine ⟨noStrays, ?_⟩
    by_cases same : s.strays = s.pending.length
    · exact same.symm.trans noStrays
    · exact absurd (noMismatch same) (by simp)

-- As many closers as openers, so no mismatch is reported, and yet nothing is paired.
example : excess ")(".toList = 0 ∧ greatestExcess ")(".toList = 1 := by decide

end StoryScript
