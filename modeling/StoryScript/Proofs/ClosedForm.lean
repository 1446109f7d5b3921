import StoryScript.Proofs.FormFindings
import StoryScript.Proofs.Matching
import StoryScript.Proofs.Occurrences
import StoryScript.Proofs.Passes
import StoryScript.Proofs.Positions
import StoryScript.Proofs.Tokens

/-!
# What a check reports, in closed form

Only the last pass of a validation can repeat something, and it does so exactly for
dialogue that is closed: then the opener has been visited as a form, and that form is
dialogue whose first argument is not quoted. All other remarks differ from each other in
their place or in their wording, so the collector keeps every one of them.
-/

namespace StoryScript

/-! ### Remarks with the same key -/

/-- A remark that starts inside a text, or at its end. -/
def Remark.Inside (text : List Char) (r : Remark) : Prop :=
  ∃ place : Nat, place ≤ text.length ∧ r.start = place

theorem Remark.key_eq_iff
    {text : List Char} {uri : String} {r s : Remark}
    (first : r.Inside text) (second : s.Inside text) :
    r.key (Document.ofText text uri) = s.key (Document.ofText text uri) ↔
      r.start = s.start ∧ r.finding.message = s.finding.message := by
  obtain ⟨place, inside, start⟩ := first
  obtain ⟨place', inside', start'⟩ := second
  rw [key, key, Diagnostic.Key.mk.injEq, start, start',
    Document.positionAt_ofText_inj inside inside', Int.natCast_inj]

/-- What is reported of a form is what the table draws, at the span of its pair. -/
theorem Visit.mem_remarks_iff (labels : List String) (v : Visit) (r : Remark) :
    r ∈ v.remarks labels 0 ↔
      ∃ f, v.form.Draws labels f ∧ r = ⟨v.pair.opener, v.pair.closer + 1, f⟩ := by
  simp only [remarks, List.mem_map, Int.zero_add, Form.mem_findings_iff, eq_comm]

theorem mem_windowRemarks_iff (labels : List String) (text : List Char) (r : Remark) :
    r ∈ windowRemarks labels text ↔
      ∃ v ∈ visits text, ∃ f ∈ v.form.findings labels,
        r = ⟨v.pair.opener, v.pair.closer + 1, f⟩ := by
  simp only [windowRemarks, List.mem_flatMap, Visit.mem_remarks_iff, Form.mem_findings_iff]

theorem Visit.opener_lt {text : List Char} {v : Visit} (visited : v ∈ visits text) :
    v.pair.opener < text.length := by
  have matched := matchedIn_of_mem_pairs ((mem_visits_iff text v).mp visited).1
  exact matched.ordered.trans matched.closer_lt

theorem inside_of_mem_windowRemarks
    {labels : List String} {text : List Char} {r : Remark}
    (reported : r ∈ windowRemarks labels text) : r.Inside text := by
  obtain ⟨v, visited, f, _, rfl⟩ := (mem_windowRemarks_iff labels text r).mp reported
  exact ⟨v.pair.opener, (Visit.opener_lt visited).le, rfl⟩

theorem inside_dialogueRemark
    {text : List Char} {o : Occurrence Unit}
    (listed : o ∈ Recognizer.unquotedDialogue.occurrences text) : (dialogueRemark o).Inside text :=
  ⟨o.start, (Recognizer.unquotedDialogue.recognized_of_mem_occurrences listed).1.le, rfl⟩

/-- An opener belongs to one visit only. -/
theorem visits_pairwise_opener (text : List Char) :
    (visits text).Pairwise fun v w => v.pair.opener ≠ w.pair.opener := by
  have byClosers : (visits text).Pairwise fun v w => v.pair.closer < w.pair.closer := by
    apply List.pairwise_filterMap.mpr
    apply (pairs_pairwise text).imp
    intro p q earlier v read w read'
    obtain ⟨_, _, rfl⟩ := Option.map_eq_some_iff.mp read
    obtain ⟨_, _, rfl⟩ := Option.map_eq_some_iff.mp read'
    exact earlier
  apply byClosers.imp_of_mem
  intro v w visited visited' earlier sameOpener
  have samePair := (matchedIn_of_mem_pairs ((mem_visits_iff text v).mp visited).1).eq_of_opener
    (matchedIn_of_mem_pairs ((mem_visits_iff text w).mp visited').1) sameOpener
  rw [samePair] at earlier
  exact Nat.lt_irrefl _ earlier

/-- The remarks of an inspection differ: those of one form in their wording, and those of
two forms in their place. -/
theorem windowRemarks_keys_nodup (labels : List String) (text : List Char) (uri : String) :
    ((windowRemarks labels text).map (Remark.key (Document.ofText text uri))).Nodup := by
  apply List.pairwise_map.mpr
  apply List.pairwise_flatMap.mpr
  constructor
  · intro v _
    apply List.pairwise_map.mpr
    apply (List.pairwise_map.mp (v.form.findings_messages_nodup labels)).imp
    intro f g different same
    exact different (congrArg Diagnostic.Key.message same)
  · apply (visits_pairwise_opener text).imp_of_mem
    intro v w visited visited' differentOpeners r reported s reported' same
    have inside := inside_of_mem_windowRemarks (List.mem_flatMap.mpr ⟨v, visited, reported⟩)
    have inside' := inside_of_mem_windowRemarks (List.mem_flatMap.mpr ⟨w, visited', reported'⟩)
    obtain ⟨f, _, rfl⟩ := List.mem_map.mp reported
    obtain ⟨g, _, rfl⟩ := List.mem_map.mp reported'
    have sameStart := ((Remark.key_eq_iff inside inside').mp same).1
    apply differentOpeners
    dsimp only at sameStart
    omega

theorem lead_of_mem_balanceRemarks {text : List Char} {r : Remark}
    (reported : r ∈ balanceRemarks text) : r.finding.lead = "Mismatched p" := by
  unfold balanceRemarks at reported
  split at reported
  · simp at reported
  · rw [List.mem_singleton.mp reported]
    rfl

theorem lead_of_mem_startRemarks {text : List Char} {r : Remark}
    (reported : r ∈ startRemarks text) : r.finding.lead ∈ ["Script must ", "Multiple sta"] := by
  unfold startRemarks startRemarksAt at reported
  split at reported
  · rw [List.mem_singleton.mp reported]
    exact List.mem_cons_self
  · simp at reported
  · rw [List.mem_singleton.mp reported]
    exact List.mem_cons_of_mem _ List.mem_cons_self

theorem Remark.key_ne_of_lead_ne
    {document : Document} {r s : Remark} (different : r.finding.lead ≠ s.finding.lead) :
    r.key document ≠ s.key document := by
  intro same
  exact different (Finding.lead_eq_of_message_eq (congrArg Diagnostic.Key.message same))

theorem lead_of_mem_windowRemarks
    {labels : List String} {text : List Char} {r : Remark}
    (reported : r ∈ windowRemarks labels text) : r.finding.lead ∈ Form.leads := by
  obtain ⟨v, _, f, found, rfl⟩ := (mem_windowRemarks_iff labels text r).mp reported
  exact (v.form.leads_findings labels).subset (List.mem_map_of_mem found)

/-- No two remarks of the first three passes have the same key. -/
theorem firstRemarks_keys_nodup (text : List Char) (uri : String) :
    ((firstRemarks text).map (Remark.key (Document.ofText text uri))).Nodup := by
  rw [firstRemarks, List.map_append, List.map_append]
  apply List.pairwise_append.mpr
  refine ⟨List.pairwise_append.mpr ⟨?_, windowRemarks_keys_nodup _ text uri, ?_⟩, ?_, ?_⟩
  · unfold balanceRemarks
    split <;> simp
  · intro k balance k' window
    obtain ⟨r, reported, rfl⟩ := List.mem_map.mp balance
    obtain ⟨s, reported', rfl⟩ := List.mem_map.mp window
    apply Remark.key_ne_of_lead_ne
    intro same
    have inLeads := lead_of_mem_windowRemarks reported'
    rw [← same, lead_of_mem_balanceRemarks reported] at inLeads
    exact absurd inLeads (by decide)
  · unfold startRemarks startRemarksAt
    split <;> simp
  · intro k before k' start
    obtain ⟨s, reported', rfl⟩ := List.mem_map.mp start
    have startLead := lead_of_mem_startRemarks reported'
    rcases List.mem_append.mp before with balance | window
    · obtain ⟨r, reported, rfl⟩ := List.mem_map.mp balance
      apply Remark.key_ne_of_lead_ne
      intro same
      rw [← same, lead_of_mem_balanceRemarks reported] at startLead
      exact absurd startLead (by decide)
    · obtain ⟨r, reported, rfl⟩ := List.mem_map.mp window
      apply Remark.key_ne_of_lead_ne
      intro same
      have disjoint : ∀ lead ∈ ["Script must ", "Multiple sta"], lead ∉ Form.leads := by decide
      have inLeads := lead_of_mem_windowRemarks reported
      rw [same] at inLeads
      exact disjoint _ startLead inLeads

theorem dialogueRemarks_keys_nodup (text : List Char) (uri : String) :
    ((dialogueRemarks text).map (Remark.key (Document.ofText text uri))).Nodup := by
  apply List.pairwise_map.mpr
  apply List.pairwise_map.mpr
  apply (Recognizer.unquotedDialogue.found_pairwise 0 0 text).imp_of_mem
  intro o o' listed listed' earlier same
  have sameStart := ((Remark.key_eq_iff (inside_dialogueRemark listed)
    (inside_dialogueRemark listed')).mp same).1
  simp only [dialogueRemark] at sameStart
  omega

/-! ### Dialogue that is closed -/

/-- A closer cuts a text behind every beginning that has none. -/
theorem append_of_no_closer
    {start inner rest after : List Char} (noCloser : ')' ∉ start)
    (same : inner ++ ')' :: after = start ++ rest) : ∃ more, inner = start ++ more := by
  rcases List.append_eq_append_iff.mp same with ⟨more, split, tail⟩ | ⟨more, split, _⟩
  · cases more with
    | nil => exact ⟨[], by simp [split]⟩
    | cons c more =>
        rw [List.cons_append] at tail
        obtain ⟨rfl, _⟩ := List.cons.inj tail
        exact absurd (by simp [split]) noCloser
  · exact ⟨more, split⟩

theorem tokens_unquoted_dialogue
    {blanks : List Char} {c : Char} (someBlank : blanks ≠ [])
    (allBlanks : ∀ b ∈ blanks, isBlank b = true) (visible : isBlank c = false)
    (notQuote : c ≠ '"') (more : List Char) :
    ∃ line others,
      tokens ("dialogue".toList ++ (blanks ++ c :: more)) = "dialogue" :: line :: others ∧
        literal? line = none := by
  obtain ⟨b, blanks, rfl⟩ := List.exists_cons_of_ne_nil someBlank
  have stops : ∀ d ∈ ((b :: blanks) ++ c :: more).head?, isBlank d = true := by
    intro d first
    rw [List.cons_append, List.head?_cons, Option.mem_some_iff] at first
    exact first ▸ allBlanks b (by simp)
  rw [tokens_word_append (by decide) (by decide) (by decide) stops, tokens_blanks_append allBlanks,
    tokens_cons_of_visible visible, cutToken_of_not_literal fun literal => notQuote literal.1]
  exact ⟨_, _, rfl, literal?_eq_none_of_head (by simp) notQuote⟩

/-- Closed dialogue with an unquoted line is visited as a form that is reported for it. -/
theorem exists_visit_of_unquotedAt
    {text : List Char} {p : Pair} (found : p ∈ pairs text) (unquoted : UnquotedAt text p.opener)
    (labels : List String) :
    ∃ form, ⟨p, form⟩ ∈ visits text ∧ .unquotedDialogue ∈ form.findings labels := by
  have matched := matchedIn_of_mem_pairs found
  obtain ⟨before, inner, after, rfl, rfl, balanced⟩ := (Pair.matchedIn_iff_split _ _).mp matched
  obtain ⟨blanks, c, rest, split, someBlank, allBlanks, visible, notQuote, notCloser⟩ := unquoted
  rw [List.drop_left] at split
  have noCloser : ')' ∉ "dialogue".toList ++ (blanks ++ [c]) := by
    intro member
    rcases List.mem_append.mp member with inWord | member
    · exact absurd inWord (by decide)
    rcases List.mem_append.mp member with inBlanks | last
    · exact absurd (allBlanks _ inBlanks) (by decide)
    · exact notCloser (List.mem_singleton.mp last).symm
  have inside : inner ++ ')' :: after = ("dialogue".toList ++ (blanks ++ [c])) ++ rest := by
    rw [(List.cons.inj split).2, List.append_assoc, List.append_assoc, List.singleton_append]
  obtain ⟨more, rfl⟩ := append_of_no_closer noCloser inside
  obtain ⟨line, others, read, unquotedLine⟩ :=
    tokens_unquoted_dialogue someBlank allBlanks visible notQuote more
  refine ⟨⟨"dialogue", line :: others⟩, ?_, ?_⟩
  · apply (mem_visits_iff _ _).mpr
    refine ⟨found, ?_⟩
    rw [Pair.content_split, List.append_assoc, List.append_assoc, List.singleton_append]
    exact (ofContent?_eq_some_iff _ _).mpr read
  · apply Form.mem_findings_iff.mpr
    refine .unquotedDialogue rfl ?_
    rw [isQuoted, Form.arg, List.getD_cons_zero, unquotedLine, Option.isSome_none]

/-- The first remarks tell of unquoted dialogue at a place where it stands exactly when it is
closed there. -/
theorem unquoted_key_mem_firstRemarks_iff
    {text : List Char} (uri : String) {place : Nat} (unquoted : UnquotedAt text place) :
    ⟨(Document.ofText text uri).positionAt place, Finding.unquotedDialogue.message⟩ ∈
      (firstRemarks text).map (Remark.key (Document.ofText text uri)) ↔ Closed text place := by
  let here : Remark := ⟨place, place, .unquotedDialogue⟩
  have inside : here.Inside text := ⟨place, unquoted.lt_length.le, rfl⟩
  rw [List.mem_map]
  change (∃ r ∈ firstRemarks text, r.key (Document.ofText text uri) =
    here.key (Document.ofText text uri)) ↔ _
  constructor
  · rintro ⟨r, reported, same⟩
    have sameLead : r.finding.lead = "Dialogue mus" :=
      Finding.lead_eq_of_message_eq (f := r.finding) (g := .unquotedDialogue)
        (congrArg Diagnostic.Key.message same)
    rcases List.mem_append.mp reported with reported | start
    · rcases List.mem_append.mp reported with balance | window
      · rw [lead_of_mem_balanceRemarks balance] at sameLead
        exact absurd sameLead (by decide)
      · have sameStart := ((Remark.key_eq_iff (inside_of_mem_windowRemarks window)
          inside).mp same).1
        obtain ⟨v, visited, f, _, rfl⟩ := (mem_windowRemarks_iff _ _ _).mp window
        exact ⟨v.pair, matchedIn_of_mem_pairs ((mem_visits_iff _ _).mp visited).1,
          Int.natCast_inj.mp sameStart⟩
    · have startLead := lead_of_mem_startRemarks start
      rw [sameLead] at startLead
      exact absurd startLead (by decide)
  · rintro ⟨p, matched, rfl⟩
    obtain ⟨form, visited, reported⟩ :=
      exists_visit_of_unquotedAt (mem_pairs_of_matchedIn matched) unquoted (declaredLabels text)
    refine ⟨⟨p.opener, p.closer + 1, .unquotedDialogue⟩, ?_, rfl⟩
    apply List.mem_append_left
    apply List.mem_append_right
    exact (mem_windowRemarks_iff _ _ _).mpr ⟨⟨p, form⟩, visited, _, reported, rfl⟩

/-- The search for unquoted dialogue is refused by a collector that has been told the first
remarks exactly where the dialogue is closed. -/
theorem refuses_dialogueRemark_iff
    (checker : Checker) {text : List Char} (uri : String) {o : Occurrence Unit}
    (listed : o ∈ Recognizer.unquotedDialogue.occurrences text) :
    ((checker.collector text uri).reportAll (firstRemarks text)).refuses (dialogueRemark o) = true ↔
      Closed text o.start := by
  rw [Collector.refuses_reportAll_iff, checker.refuses_collector]
  simp only [Bool.false_eq_true, or_false]
  exact unquoted_key_mem_firstRemarks_iff uri (Recognizer.unquotedAt_of_mem_occurrences listed)

/-! ### The closed form -/

/-- The unquoted dialogue of a text that is never closed. -/
def unclosedDialogue (text : List Char) : List (Occurrence Unit) :=
  (Recognizer.unquotedDialogue.occurrences text).filter fun o => ¬ Closed text o.start

/-- What a check keeps: all first remarks, and of the search for unquoted dialogue what is
never closed. -/
def keptRemarks (text : List Char) : List Remark :=
  firstRemarks text ++ (unclosedDialogue text).map dialogueRemark

theorem balanceRemarks_of_balanced {text : List Char} (balanced : Balanced text) :
    balanceRemarks text = [] := if_pos balanced.1

theorem closed_of_mem_unquotedDialogue
    {text : List Char} (nonePending : (Pairing.ofText text).pending = []) {o : Occurrence Unit}
    (listed : o ∈ Recognizer.unquotedDialogue.occurrences text) : Closed text o.start := by
  exact closed_of_nonePending nonePending (Recognizer.unquotedAt_of_mem_occurrences listed).opens

theorem unclosedDialogue_of_nonePending
    {text : List Char} (nonePending : (Pairing.ofText text).pending = []) :
    unclosedDialogue text = [] := by
  apply List.filter_eq_nil_iff.mpr
  intro o listed
  simpa using closed_of_mem_unquotedDialogue nonePending listed

theorem toList_reportAll_remarks (checker : Checker) (text : List Char) (uri : String) :
    ((checker.collector text uri).reportAll (remarks text)).diagnostics.toList =
      (keptRemarks text).map (Remark.diagnostic (Document.ofText text uri) checker.source) := by
  have allKept : (firstRemarks text).filter (fun r => !(checker.collector text uri).refuses r) =
      firstRemarks text := by
    apply List.filter_eq_self.mpr
    intro r _
    rw [checker.refuses_collector]
    rfl
  have unclosedKept : (dialogueRemarks text).filter
      (fun r => !((checker.collector text uri).reportAll (firstRemarks text)).refuses r) =
      (unclosedDialogue text).map dialogueRemark := by
    rw [dialogueRemarks, List.filter_map, unclosedDialogue]
    congr 1
    apply List.filter_congr
    intro o listed
    have refused := refuses_dialogueRemark_iff checker uri listed
    rw [Function.comp_apply, Bool.eq_iff_iff, Bool.not_eq_true', ← Bool.not_eq_true, refused,
      decide_eq_true_iff]
  rw [remarks, Collector.reportAll_append, Collector.toList_reportAll_of_nodup,
    Collector.toList_reportAll_of_nodup, allKept, unclosedKept, keptRemarks, List.map_append]
  · simp
    rfl
  · exact firstRemarks_keys_nodup text uri
  · rw [Collector.document_reportAll]
    exact dialogueRemarks_keys_nodup text uri

theorem key_not_mem_of_nodup
    {document : Document} {before after : List Remark} {r : Remark}
    (different : ((before ++ r :: after).map (Remark.key document)).Nodup) :
    r.key document ∉ before.map (Remark.key document) := by
  rw [List.map_append, List.map_cons] at different
  intro member
  exact List.disjoint_of_nodup_append different member List.mem_cons_self

/-- None of the first remarks is refused. -/
theorem not_refuses_firstRemark
    (checker : Checker) {text : List Char} (uri : String) {before after : List Remark} {r : Remark}
    (split : firstRemarks text = before ++ r :: after) :
    ((checker.collector text uri).reportAll before).refuses r = false := by
  have different := firstRemarks_keys_nodup text uri
  rw [split] at different
  apply Bool.eq_false_iff.mpr
  intro refused
  rw [Collector.refuses_reportAll_iff, checker.refuses_collector text uri] at refused
  exact key_not_mem_of_nodup different (refused.resolve_right (by simp))

/-- Dialogue found earlier has no influence on whether a remark on dialogue is refused. -/
theorem refuses_dialogueRemark_iff_closed
    (checker : Checker) {text : List Char} (uri : String)
    {before after : List (Occurrence Unit)} {o : Occurrence Unit}
    (split : Recognizer.unquotedDialogue.occurrences text = before ++ o :: after) :
    ((checker.collector text uri).reportAll
      (firstRemarks text ++ before.map dialogueRemark)).refuses (dialogueRemark o) = true ↔
      Closed text o.start := by
  have listed : o ∈ Recognizer.unquotedDialogue.occurrences text := by
    rw [split]
    simp
  have different := dialogueRemarks_keys_nodup text uri
  rw [dialogueRemarks, split, List.map_append, List.map_cons] at different
  rw [Collector.reportAll_append, Collector.refuses_reportAll_iff, Collector.document_reportAll]
  constructor
  · rintro (repeated | refused)
    · exact absurd repeated (key_not_mem_of_nodup different)
    · exact (refuses_dialogueRemark_iff checker uri listed).mp refused
  · intro closed
    exact .inr ((refuses_dialogueRemark_iff checker uri listed).mpr closed)

/-- A check of a script within the size limit keeps the mismatch, the findings of all matched
pairs in the order of their closers (those of one pair are given by `Form.eq_findings_iff`), the
start, and the unquoted dialogue that is never closed. A collector that starts empty refuses
nothing else: none of the first remarks, and a remark on unquoted dialogue exactly when its
opener is matched. -/
theorem Checker.check_closed_form
    (checker : Checker) (script uri : String)
    (withinLimit : (script.toList.length : Int) ≤ checker.maxScriptSize) :
    let text := script.toList
    let c := Collector.ofList (Document.ofText text uri) [] checker.source
    let dialogue := Recognizer.unquotedDialogue.occurrences text
    (checker.check script uri).value = .ok ⟨
      (balanceRemarks text ++ windowRemarks (declaredLabels text) text ++ startRemarks text ++
        (unclosedDialogue text).map dialogueRemark).map
          (Remark.diagnostic (Document.ofText text uri) checker.source)⟩ ∧
    (∀ p, p ∈ pairs text ↔ p.MatchedIn text) ∧
    (pairs text).Pairwise (fun p q => p.closer < q.closer) ∧
    (StoryScript.validate text c).collector =
      c.reportAll (firstRemarks text ++ dialogue.map dialogueRemark) ∧
    (∀ before r after, firstRemarks text = before ++ r :: after →
      (c.reportAll before).refuses r = false) ∧
    (∀ before o after, dialogue = before ++ o :: after →
      ((c.reportAll (firstRemarks text ++ before.map dialogueRemark)).refuses
        (dialogueRemark o) = true ↔ Closed text o.start)) := by
  intro text c dialogue
  refine ⟨?_, mem_pairs_iff text, pairs_pairwise text, ?_, ?_, ?_⟩
  · rw [checker.check_eq script uri withinLimit, toList_reportAll_remarks]
    rfl
  · rw [validate_eq]
    rfl
  · intro before r after split
    exact not_refuses_firstRemark checker uri split
  · intro before o after split
    exact refuses_dialogueRemark_iff_closed checker uri split

/-- Of two unquoted lines the first is closed, so only the second one is kept by the last
pass; nothing else is refused. -/
theorem Checker.check_closed_form_half_closed :
    let script := "(dialogue a)(dialogue b"
    let text := script.toList
    let checker : Checker := {}
    let c := Collector.ofList (Document.ofText text "x") [] checker.source
    (text.length : Int) ≤ checker.maxScriptSize ∧
    (checker.check script "x").value = .ok ⟨
      ([⟨0, 1, .unbalanced 2 1⟩, ⟨0, 12, .unquotedDialogue⟩, ⟨0, 1, .missingStart⟩,
        ⟨12, 23, .unquotedDialogue⟩] : List Remark).map
          (Remark.diagnostic (Document.ofText text "x") checker.source)⟩ ∧
    (c.reportAll (firstRemarks text)).refuses (dialogueRemark ⟨0, 11, ()⟩) = true ∧
    (c.reportAll (firstRemarks text ++ [dialogueRemark ⟨0, 11, ()⟩])).refuses
      (dialogueRemark ⟨12, 11, ()⟩) = false := by
  intro script text checker c
  have withinLimit : (text.length : Int) ≤ checker.maxScriptSize := by decide
  have kept : balanceRemarks text ++ windowRemarks (declaredLabels text) text ++
      startRemarks text ++ (unclosedDialogue text).map dialogueRemark =
      [⟨0, 1, .unbalanced 2 1⟩, ⟨0, 12, .unquotedDialogue⟩, ⟨0, 1, .missingStart⟩,
        ⟨12, 23, .unquotedDialogue⟩] := by decide +kernel
  have dialogue : Recognizer.unquotedDialogue.occurrences text =
      [⟨0, 11, ()⟩, ⟨12, 11, ()⟩] := by decide +kernel
  obtain ⟨diagnostics, _, _, _, _, refusals⟩ :=
    Checker.check_closed_form checker script "x" withinLimit
  rw [kept] at diagnostics
  refine ⟨withinLimit, diagnostics, ?_, ?_⟩
  · have first := refusals [] ⟨0, 11, ()⟩ [⟨12, 11, ()⟩] dialogue
    rw [List.map_nil, List.append_nil] at first
    exact first.mpr (by decide +kernel)
  · have second := refusals [⟨0, 11, ()⟩] ⟨12, 11, ()⟩ [] dialogue
    apply Bool.eq_false_iff.mpr
    intro refused
    exact absurd (second.mp refused) (by decide +kernel)

end StoryScript
