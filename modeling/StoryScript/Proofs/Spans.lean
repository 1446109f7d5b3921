import StoryScript.Proofs.Boundaries
import StoryScript.Proofs.LineTable

/-!
# Spans of diagnostics

Matched pairs never cross: a pair that opens inside another one closes inside it. Since
positions come in the order of their offsets, the same holds for the spans of what is reported
of forms. Everything else that a check reports is placed inside the text as well, at an opener
unless it is about the script as a whole.
-/

namespace StoryScript

/-! ### Matched pairs do not cross -/

namespace Pair.MatchedIn

variable {text : List Char} {p q : Pair}

/-- The content of a matched pair is balanced, so an opener inside it finds its closer there,
and no other one anywhere. -/
theorem closer_lt_of_opener_inside
    (outer : p.MatchedIn text) (inner : q.MatchedIn text)
    (after : p.opener < q.opener) (before : q.opener < p.closer) : q.closer < p.closer := by
  obtain ⟨front, content, back, rfl, rfl, balanced⟩ := (matchedIn_iff_split _ _).mp outer
  dsimp only at after before ⊢
  have place : q.opener = (front ++ ['(']).length + (q.opener - (front.length + 1)) := by
    rw [List.length_append, List.length_singleton]
    omega
  have text_eq : front ++ '(' :: (content ++ ')' :: back) =
      (front ++ ['(']) ++ (content ++ ')' :: back) := by simp
  have opens := inner.opens
  rw [text_eq, place, List.getElem?_append_right (by omega), Nat.add_sub_cancel_left,
    List.getElem?_append_left (by omega)] at opens
  obtain ⟨r, matched, opener⟩ := closed_of_nonePending balanced.nonePending opens
  obtain ⟨inWhole, inside⟩ := (matchedIn_window_iff (front ++ ['(']) content (')' :: back) r).mp
    matched
  rw [text_eq] at inner
  have same : q = r.shift (front ++ ['(']).length := by
    apply inner.eq_of_opener inWhole
    rw [place, shift, opener]
  rw [same, shift, List.length_append, List.length_singleton]
  dsimp only
  omega

/-- Two matched pairs are the same, lie side by side, or lie one inside the other. -/
theorem laminar (first : p.MatchedIn text) (second : q.MatchedIn text) :
    p = q ∨ p.closer < q.opener ∨ q.closer < p.opener ∨
      (p.opener < q.opener ∧ q.closer < p.closer) ∨
      (q.opener < p.opener ∧ p.closer < q.closer) := by
  have notSame : ∀ {r s : Pair}, r.MatchedIn text → s.MatchedIn text → r.opener ≠ s.closer := by
    intro r s opens closes same
    have both := opens.opens.symm.trans (same ▸ closes.closes)
    exact absurd both (by decide)
  rcases Nat.lt_trichotomy p.opener q.opener with before | same | after
  · rcases Nat.lt_trichotomy q.opener p.closer with inside | meets | beyond
    · have closes := first.closer_lt_of_opener_inside second before inside
      exact .inr (.inr (.inr (.inl ⟨before, closes⟩)))
    · exact absurd meets (notSame second first)
    · exact .inr (.inl beyond)
  · exact .inl (first.eq_of_opener second same)
  · rcases Nat.lt_trichotomy p.opener q.closer with inside | meets | beyond
    · have closes := second.closer_lt_of_opener_inside first after inside
      exact .inr (.inr (.inr (.inr ⟨after, closes⟩)))
    · exact absurd meets (notSame first second)
    · exact .inr (.inr (.inl beyond))

end Pair.MatchedIn

namespace Span

/-- Two spans without a common character. -/
def Apart (a b : Span) : Prop := a.stop ≤ b.start ∨ b.stop ≤ a.start

/-- A span that starts after another one has started and stops before it stops. -/
def Inside (inner outer : Span) : Prop := outer.start < inner.start ∧ inner.stop < outer.stop

end Span

/-- The span of a pair, from its opener up to behind its closer. -/
def Pair.span (document : Document) (p : Pair) : Span := document.span p.opener (p.closer + 1)

theorem Pair.MatchedIn.spans_laminar
    {text : List Char} {p q : Pair} (first : p.MatchedIn text) (second : q.MatchedIn text)
    (uri : String) :
    let document := Document.ofText text uri
    p.span document = q.span document ∨ (p.span document).Apart (q.span document) ∨
      (p.span document).Inside (q.span document) ∨ (q.span document).Inside (p.span document) := by
  intro document
  have firstInside := first.closer_lt
  have secondInside := second.closer_lt
  have firstOrdered := first.ordered
  have secondOrdered := second.ordered
  have clamped : ∀ {offset : Nat}, offset ≤ text.length → document.clamp offset = offset :=
    fun inside => Document.clamp_ofText inside uri
  have clampedStop : ∀ {offset : Nat}, offset + 1 ≤ text.length →
      document.clamp ((offset : Int) + 1) = offset + 1 := fun inside => clamped inside
  simp only [Span.Apart, Span.Inside, Pair.span, Document.span, document,
    Document.positionAt_lt_iff, Document.positionAt_le_iff]
  rw [clamped (by omega), clamped (by omega), clampedStop (by omega), clampedStop (by omega)]
  rcases first.laminar second with rfl | before | after | outside | inside
  · exact .inl rfl
  · exact .inr (.inl (.inl before))
  · exact .inr (.inl (.inr after))
  · exact .inr (.inr (.inr ⟨outside.1, by omega⟩))
  · exact .inr (.inr (.inl ⟨inside.1, by omega⟩))

/-! ### Where remarks are placed -/

/-- The messages about a script as a whole: its parentheses do not balance, or it has no
start. -/
def AboutWhole (message : String) : Prop :=
  (∃ opening closing, message = (Finding.unbalanced opening closing).message) ∨
    message = Finding.missingStart.message

theorem not_aboutWhole_of_lead
    {f : Finding} (notBalance : f.lead ≠ "Mismatched p") (notStart : f.lead ≠ "Script must ") :
    ¬ AboutWhole f.message := by
  rintro (⟨opening, closing, same⟩ | same)
  · exact notBalance (Finding.lead_eq_of_message_eq same)
  · exact notStart (Finding.lead_eq_of_message_eq same)

/-- A remark reaches from one offset of a text to a later one. It is at an opener, or at the
first character if it is about the script as a whole. -/
structure Remark.PlacedIn (text : List Char) (start stop : Nat) (r : Remark) : Prop where
  starts : r.start = start
  stops : r.stop = stop
  ordered : start < stop
  inside : stop ≤ text.length
  whole : AboutWhole r.finding.message → start = 0 ∧ stop = 1
  opens : ¬ AboutWhole r.finding.message → text[start]? = some '('

theorem Remark.PlacedIn.span_diagnostic
    {text : List Char} {start stop : Nat} {r : Remark} (placed : r.PlacedIn text start stop)
    (uri source : String) :
    let document := Document.ofText text uri
    let span := (r.diagnostic document source).span
    span = document.span start stop ∧ span.start < span.stop := by
  intro document span
  have span_eq : span = document.span start stop := by
    simp only [span, Remark.diagnostic, placed.starts, placed.stops]
  refine ⟨span_eq, ?_⟩
  have startInside : start ≤ text.length := (Nat.le_of_lt placed.ordered).trans placed.inside
  rw [span_eq]
  simp only [Document.span, document, Document.positionAt_lt_iff]
  rw [Document.clamp_ofText startInside, Document.clamp_ofText placed.inside]
  exact placed.ordered

theorem placedIn_of_mem_windowRemarks
    {labels : List String} {text : List Char} {r : Remark}
    (reported : r ∈ windowRemarks labels text) :
    ∃ p : Pair, p.MatchedIn text ∧ r.PlacedIn text p.opener (p.closer + 1) := by
  have lead := lead_of_mem_windowRemarks reported
  obtain ⟨v, visited, f, _, rfl⟩ := (mem_windowRemarks_iff labels text r).mp reported
  have matched := matchedIn_of_mem_pairs ((mem_visits_iff text v).mp visited).1
  have ordered := matched.ordered
  have notWhole : ¬ AboutWhole f.message := by
    apply not_aboutWhole_of_lead
    · rintro same
      rw [same] at lead
      exact absurd lead (by decide)
    · rintro same
      rw [same] at lead
      exact absurd lead (by decide)
  exact ⟨v.pair, matched, rfl, rfl, by omega, matched.closer_lt,
    fun whole => absurd whole notWhole, fun _ => matched.opens⟩

/-- A remark about the script as a whole marks its first character. -/
theorem placedIn_first
    {text : List Char} (nonempty : text ≠ []) {f : Finding} (whole : AboutWhole f.message) :
    Remark.PlacedIn text 0 1 ⟨0, 1, f⟩ :=
  ⟨rfl, rfl, Nat.zero_lt_one, List.length_pos_iff.mpr nonempty, fun _ => ⟨rfl, rfl⟩,
    fun notWhole => absurd whole notWhole⟩

theorem placedIn_of_mem_balanceRemarks
    {text : List Char} (nonempty : text ≠ []) {r : Remark} (reported : r ∈ balanceRemarks text) :
    ∃ start stop, r.PlacedIn text start stop := by
  unfold balanceRemarks at reported
  split at reported
  · simp at reported
  · rw [List.mem_singleton.mp reported]
    exact ⟨0, 1, placedIn_first nonempty (.inl ⟨_, _, rfl⟩)⟩

theorem StartsAt.opens {text : List Char} {place : Nat} (starts : StartsAt text place) :
    text[place]? = some '(' := by
  rw [← List.head?_drop]
  cases rest : text.drop place with
  | nil => simp [StartsAt, rest] at starts
  | cons c more =>
      have word : (c :: more).take 6 = '(' :: "start".toList := rest ▸ starts.1
      rw [List.head?_cons, (List.cons.inj word).1]

theorem placedIn_of_mem_startRemarks
    {text : List Char} (nonempty : text ≠ []) {r : Remark} (reported : r ∈ startRemarks text) :
    ∃ start stop, r.PlacedIn text start stop := by
  unfold startRemarks startRemarksAt at reported
  split at reported
  case h_1 =>
    rw [List.mem_singleton.mp reported]
    exact ⟨0, 1, placedIn_first nonempty (.inr rfl)⟩
  case h_2 => simp at reported
  case h_3 first second more places =>
    have startsAt : StartsAt text second := by
      apply (Recognizer.mem_starts_iff text second).mp
      rw [places]
      simp
    have opens := startsAt.opens
    have inside := (List.getElem?_eq_some_iff.mp opens).1
    rw [List.mem_singleton.mp reported]
    refine ⟨second, min (second + startMarkWidth) text.length, rfl, rfl, ?_,
      Nat.min_le_right _ _, ?_, fun _ => opens⟩
    · rw [startMarkWidth]
      omega
    · intro whole
      have notWhole : ¬ AboutWhole Finding.repeatedStart.message :=
        not_aboutWhole_of_lead (by decide) (by decide)
      exact absurd whole notWhole

theorem Recognizer.unquotedDialogue_length_pos
    {text : List Char} {length : Nat} {value : Unit}
    (recognized : unquotedDialogue text = some (length, value)) : 0 < length := by
  unfold unquotedDialogue at recognized
  split at recognized
  case h_2 => simp at recognized
  case h_1 width rest opened =>
    obtain ⟨blanks, _, _, _, _, rfl⟩ := (opening_eq_some_iff _ _ _ _).mp opened
    dsimp only at recognized
    split at recognized
    · simp at recognized
    · simp only [Option.some.injEq, Prod.mk.injEq] at recognized
      omega

theorem placedIn_dialogueRemark
    {text : List Char} {o : Occurrence Unit}
    (listed : o ∈ Recognizer.unquotedDialogue.occurrences text) :
    (dialogueRemark o).PlacedIn text o.start o.stop := by
  obtain ⟨inside, recognized⟩ := Recognizer.unquotedDialogue.recognized_of_mem_occurrences listed
  obtain ⟨blanks, c, rest, split, _⟩ := Recognizer.unquotedAt_of_mem_occurrences listed
  have someLength := Recognizer.unquotedDialogue_length_pos recognized
  have fits := Recognizer.unquotedDialogue_withoutClosers.fits recognized
  rw [List.length_drop] at fits
  refine ⟨rfl, rfl, ?_, ?_, ?_, ?_⟩
  · rw [Occurrence.stop]
    omega
  · rw [Occurrence.stop]
    omega
  · intro whole
    have notWhole : ¬ AboutWhole Finding.unquotedDialogue.message :=
      not_aboutWhole_of_lead (by decide) (by decide)
    exact absurd whole notWhole
  · intro _
    rw [← List.head?_drop, split]
    rfl

/-- Everything that a check keeps is placed in the text. -/
theorem placedIn_of_mem_keptRemarks
    {text : List Char} (nonempty : text ≠ []) {r : Remark} (kept : r ∈ keptRemarks text) :
    ∃ start stop, r.PlacedIn text start stop := by
  rcases List.mem_append.mp kept with first | dialogue
  · rcases List.mem_append.mp first with first | start
    · rcases List.mem_append.mp first with balance | window
      · exact placedIn_of_mem_balanceRemarks nonempty balance
      · obtain ⟨p, _, placed⟩ := placedIn_of_mem_windowRemarks window
        exact ⟨_, _, placed⟩
    · exact placedIn_of_mem_startRemarks nonempty start
  · obtain ⟨o, unclosed, rfl⟩ := List.mem_map.mp dialogue
    exact ⟨_, _, placedIn_dialogueRemark (List.mem_filter.mp unclosed).1⟩

/-! ### What is reported of forms -/

/-- The diagnostics that the inspection of the forms adds to a check. -/
def Checker.formDiagnostics (checker : Checker) (text : List Char) (uri : String) :
    List Diagnostic :=
  let balanced := (Collector.ofList (Document.ofText text uri) [] checker.source).checkBalance text
  let first : Inspection := ⟨declaredLabels text, balanced, 0⟩
  (first.window text).collector.since balanced.size

/-- The inspection of the forms adds all its remarks, since none of them is worded like the
remark on the balance before it. -/
theorem Checker.formDiagnostics_eq (checker : Checker) (text : List Char) (uri : String) :
    checker.formDiagnostics text uri =
      (windowRemarks (declaredLabels text) text).map
        (Remark.diagnostic (Document.ofText text uri) checker.source) := by
  have c_eq : Collector.ofList (Document.ofText text uri) [] checker.source =
      checker.collector text uri := rfl
  have different := firstRemarks_keys_nodup text uri
  rw [firstRemarks, List.map_append, List.map_append] at different
  have apart := List.disjoint_of_nodup_append (List.nodup_append.mp different).1
  have allKept : (windowRemarks (declaredLabels text) text).filter
      (fun r => !((checker.collector text uri).reportAll (balanceRemarks text)).refuses r) =
      windowRemarks (declaredLabels text) text := by
    apply List.filter_eq_self.mpr
    intro r reported
    rw [Bool.not_eq_true', Bool.eq_false_iff, ne_eq, Collector.refuses_reportAll_iff,
      checker.refuses_collector]
    rintro (balance | refused)
    · exact apart balance (List.mem_map_of_mem reported)
    · exact absurd refused (by decide)
  simp only [formDiagnostics, c_eq, Collector.since, Collector.size, Inspection.window_eq,
    Collector.checkBalance_eq]
  rw [Collector.toList_reportAll_of_nodup, allKept, Collector.document_reportAll,
    Collector.source_reportAll]
  · exact List.drop_left' (by simp)
  · rw [Collector.document_reportAll]
    exact windowRemarks_keys_nodup _ text uri

/-- What is reported of a form has the span of the matched pair around it. -/
theorem exists_pair_of_mem_formDiagnostics
    {checker : Checker} {text : List Char} {uri : String} {d : Diagnostic}
    (reported : d ∈ checker.formDiagnostics text uri) :
    ∃ p : Pair, p.MatchedIn text ∧ d.span = p.span (Document.ofText text uri) := by
  rw [checker.formDiagnostics_eq] at reported
  obtain ⟨r, remarked, rfl⟩ := List.mem_map.mp reported
  obtain ⟨p, matched, placed⟩ := placedIn_of_mem_windowRemarks remarked
  exact ⟨p, matched, (placed.span_diagnostic uri checker.source).1⟩

theorem formDiagnostics_subset (checker : Checker) (text : List Char) (uri : String) :
    checker.formDiagnostics text uri ⊆
      (keptRemarks text).map (Remark.diagnostic (Document.ofText text uri) checker.source) := by
  rw [checker.formDiagnostics_eq]
  apply List.map_subset
  intro r remarked
  exact List.mem_append_left _ (List.mem_append_left _ (List.mem_append_right _ remarked))

/-- The diagnostics of a check of a script that is not empty have spans inside the text. Each
reaches from one offset to a later one, and its positions are in that order. Those about the
script as a whole mark its first character, and all others start at an opener. What is
reported of forms moreover ends behind a closer, with balanced text in between, and of two
such spans that differ either they lie apart or one lies inside the other. -/
theorem Checker.check_spans_nested
    (checker : Checker) (script uri : String) (nonempty : script ≠ "")
    (withinLimit : (script.toList.length : Int) ≤ checker.maxScriptSize) :
    let text := script.toList
    let document := Document.ofText text uri
    let forms := checker.formDiagnostics text uri
    ∃ report, (checker.check script uri).value = .ok report ∧
    (∀ d ∈ report.diagnostics, ∃ start stop : Nat,
      start < stop ∧ stop ≤ text.length ∧ d.span = document.span start stop ∧
      d.span.start < d.span.stop ∧
      (AboutWhole d.message → start = 0 ∧ stop = 1) ∧
      (¬ AboutWhole d.message → text[start]? = some '(')) ∧
    forms ⊆ report.diagnostics ∧
    (∀ d ∈ forms, ∃ start stop : Nat,
      start < stop ∧ stop ≤ text.length ∧ d.span = document.span start stop ∧
      text[start]? = some '(' ∧ text[stop - 1]? = some ')' ∧
      Balanced ((text.drop (start + 1)).take (stop - 1 - (start + 1)))) ∧
    (∀ d ∈ forms, ∀ e ∈ forms,
      d.span = e.span ∨ d.span.Apart e.span ∨ d.span.Inside e.span ∨ e.span.Inside d.span) := by
  intro text document forms
  have someText : text ≠ [] := fun empty => nonempty (String.toList_eq_nil_iff.mp empty)
  refine ⟨_, (checker.check_eq script uri withinLimit).trans
    (by rw [toList_reportAll_remarks]), ?_, ?_, ?_, ?_⟩
  · intro d reported
    obtain ⟨r, kept, rfl⟩ := List.mem_map.mp reported
    obtain ⟨start, stop, placed⟩ := placedIn_of_mem_keptRemarks someText kept
    obtain ⟨span, ordered⟩ := placed.span_diagnostic uri checker.source
    exact ⟨start, stop, placed.ordered, placed.inside, span, ordered, placed.whole, placed.opens⟩
  · exact formDiagnostics_subset checker text uri
  · intro d reported
    obtain ⟨p, matched, span⟩ := exists_pair_of_mem_formDiagnostics reported
    have ordered := matched.ordered
    have balanced := matched.balanced
    rw [Pair.content_toArray] at balanced
    exact ⟨p.opener, p.closer + 1, by omega, matched.closer_lt, span, matched.opens,
      matched.closes, balanced⟩
  · intro d reported e reported'
    obtain ⟨p, matched, span⟩ := exists_pair_of_mem_formDiagnostics reported
    obtain ⟨q, matched', span'⟩ := exists_pair_of_mem_formDiagnostics reported'
    rw [span, span']
    exact matched.spans_laminar matched' uri

/-- A form on the second line, inside one that starts on the first. -/
theorem Checker.check_spans_nested_two_lines :
    let script := "(nod\n(bow))"
    let checker : Checker := {}
    let inner : Span := ⟨⟨1, 0⟩, ⟨1, 5⟩⟩
    let outer : Span := ⟨⟨0, 0⟩, ⟨1, 6⟩⟩
    script ≠ "" ∧ (script.toList.length : Int) ≤ checker.maxScriptSize ∧
    (checker.formDiagnostics script.toList "x").map (·.span) = [inner, outer] ∧
    (inner = outer ∨ inner.Apart outer ∨ inner.Inside outer ∨ outer.Inside inner) ∧
    ∃ report, (checker.check script "x").value = .ok report ∧
      ⟨.error, inner, "Unknown keyword 'bow'", "vnscript"⟩ ∈ report.diagnostics := by
  intro script checker inner outer
  have withinLimit : (script.toList.length : Int) ≤ checker.maxScriptSize := by decide
  have reported : checker.formDiagnostics script.toList "x" =
      [⟨.error, inner, "Unknown keyword 'bow'", "vnscript"⟩,
        ⟨.error, outer, "Unknown keyword 'nod'", "vnscript"⟩] := by decide +kernel
  obtain ⟨report, checked, _, subset, _, nested⟩ :=
    Checker.check_spans_nested checker script "x" (by decide) withinLimit
  rw [reported] at nested subset
  refine ⟨by decide, withinLimit, by rw [reported]; rfl, ?_, report, checked, ?_⟩
  · exact nested _ List.mem_cons_self _ (List.mem_cons_of_mem _ List.mem_cons_self)
  · exact subset List.mem_cons_self

end StoryScript
