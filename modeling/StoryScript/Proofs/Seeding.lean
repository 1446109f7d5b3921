import StoryScript.Proofs.Passes

/-!
# Validating into diagnostics at hand

A collector may hold diagnostics before a validation begins. What they say and where they
come from does not matter: the run adds what it would have added to nothing, except the
issues that were held before. The argument compares two collectors that are told the same
remarks, one of them without the diagnostics at hand.
-/

namespace StoryScript

namespace Collector

theorem toList_report (c : Collector) (r : Remark) :
    (c.report r.start r.stop r.finding).diagnostics.toList =
      if c.refuses r then c.diagnostics.toList
      else c.diagnostics.toList ++ [r.diagnostic c.document c.source] :=
  toList_add ..

theorem Keyed.reportAll
    {c : Collector} (keyed : c.Keyed) (remarks : List Remark) : (c.reportAll remarks).Keyed := by
  induction remarks generalizing c with
  | nil => exact keyed
  | cons r rest inductionHypothesis => exact inductionHypothesis (keyed.add _ _ _ _)

/-- Every diagnostic was held before or is that of a remark. -/
theorem exists_remark_of_mem_reportAll
    {c : Collector} {remarks : List Remark} {d : Diagnostic}
    (held : d ∈ (c.reportAll remarks).diagnostics.toList) :
    d ∈ c.diagnostics.toList ∨ ∃ r ∈ remarks, d = r.diagnostic c.document c.source := by
  induction remarks generalizing c with
  | nil => exact .inl held
  | cons r rest inductionHypothesis =>
      rcases inductionHypothesis held with before | ⟨s, member, rfl⟩
      · rw [toList_report] at before
        split at before
        · exact .inl before
        · rcases List.mem_append.mp before with before | new
          · exact .inl before
          · exact .inr ⟨r, List.mem_cons_self, List.mem_singleton.mp new⟩
      · rw [document_report, source_report]
        exact .inr ⟨s, List.mem_cons_of_mem _ member, rfl⟩

/-- A collector that held nothing has only diagnostics of remarks. -/
theorem exists_remark_of_mem_fresh
    {document : Document} {source : String} {remarks : List Remark} {d : Diagnostic}
    (held : d ∈ ((ofList document [] source).reportAll remarks).diagnostics.toList) :
    ∃ r ∈ remarks, d = r.diagnostic document source :=
  (exists_remark_of_mem_reportAll held).resolve_left List.not_mem_nil

/-- Two collectors that have been told the same, where the second one held `initial` at
first and the first one held nothing. -/
structure Seeded (initial : List Diagnostic) (bare seeded : Collector) : Prop where
  document : seeded.document = bare.document
  source : seeded.source = bare.source
  seen : ∀ k, seeded.seen.contains k = true ↔
    k ∈ initial.map (·.key) ∨ bare.seen.contains k = true
  diagnostics : seeded.diagnostics.toList =
    initial ++ bare.diagnostics.toList.filter fun d => d.key ∉ initial.map (·.key)

namespace Seeded

variable {initial : List Diagnostic} {bare seeded : Collector}

theorem ofList (document : Document) (initial : List Diagnostic) (source : String) :
    Seeded initial (ofList document [] source) (ofList document initial source) where
  document := rfl
  source := rfl
  seen := contains_foldl_iff initial ∅
  diagnostics := by simp [Collector.ofList]

theorem refuses_iff (related : Seeded initial bare seeded) (r : Remark) :
    seeded.refuses r = true ↔
      r.key bare.document ∈ initial.map (·.key) ∨ bare.refuses r = true := by
  rw [refuses, related.document, related.seen]
  rfl

/-- A remark that both collectors keep is not about an issue of `initial`, and one that only
the first collector keeps is. -/
theorem report (related : Seeded initial bare seeded) (r : Remark) :
    Seeded initial (bare.report r.start r.stop r.finding)
      (seeded.report r.start r.stop r.finding) where
  document := by rw [document_report, document_report, related.document]
  source := by rw [source_report, source_report, related.source]
  seen k := by
    rw [contains_seen_report, contains_seen_report, related.document, related.seen, or_left_comm]
  diagnostics := by
    have agree := related.refuses_iff r
    rw [toList_report, toList_report, related.diagnostics, related.document, related.source]
    by_cases refused : bare.refuses r = true
    · rw [if_pos refused, if_pos (agree.mpr (.inr refused))]
    by_cases atHand : r.key bare.document ∈ initial.map (·.key)
    · have dropped : [r.diagnostic bare.document bare.source].filter
          (fun d => d.key ∉ initial.map (·.key)) = [] := by
        apply List.filter_cons_of_neg
        simpa using atHand
      rw [if_neg refused, if_pos (agree.mpr (.inl atHand)), List.filter_append, dropped,
        List.append_nil]
    · have kept : [r.diagnostic bare.document bare.source].filter
          (fun d => d.key ∉ initial.map (·.key)) = [r.diagnostic bare.document bare.source] := by
        apply List.filter_cons_of_pos
        simpa using atHand
      have notRefused : ¬ seeded.refuses r = true := by
        rw [agree]
        exact not_or.mpr ⟨atHand, refused⟩
      rw [if_neg refused, if_neg notRefused, List.filter_append, kept, List.append_assoc]

theorem reportAll (related : Seeded initial bare seeded) (remarks : List Remark) :
    Seeded initial (bare.reportAll remarks) (seeded.reportAll remarks) := by
  induction remarks generalizing bare seeded with
  | nil => exact related
  | cons r rest inductionHypothesis => exact inductionHypothesis (related.report r)

end Seeded

end Collector

theorem validateInto_eq
    (text : List Char) (document : Document) (initial : List Diagnostic) (source : String) :
    validateInto text document initial source =
      ((Collector.ofList document initial source).reportAll (remarks text)).diagnostics.toList := by
  rw [validateInto, validate_eq]

/-- After a validation, all its remarks are about issues that are held. -/
theorem key_mem_validateInto
    (text : List Char) (document : Document) (initial : List Diagnostic) (source : String)
    {r : Remark} (reported : r ∈ remarks text) :
    r.key document ∈ (validateInto text document initial source).map (·.key) := by
  have keyed := (Collector.keyed_ofList document initial source).reportAll (remarks text)
  rw [validateInto_eq, ← keyed, Collector.contains_seen_reportAll]
  exact .inl (List.mem_map_of_mem reported)

/-- A validation keeps the diagnostics at hand, in front and unchanged, and adds those of its
own whose issue is not among them. So a second validation into the result adds nothing, under
whatever source, and it counts the forms again. -/
theorem validateInto_keeps_initial
    (text : List Char) (document : Document) (initial : List Diagnostic) (source : String) :
    validateInto text document initial source =
      initial ++ (validateInto text document [] source).filter
        (fun d => d.key ∉ initial.map (·.key)) ∧
    ∀ otherSource : String,
      let held := validateInto text document initial source
      validateInto text document held otherSource = held ∧
      (validate text (Collector.ofList document held otherSource)).formsSeen =
        (validate text (Collector.ofList document initial source)).formsSeen := by
  constructor
  · rw [validateInto_eq, validateInto_eq]
    exact ((Collector.Seeded.ofList document initial source).reportAll (remarks text)).diagnostics
  · intro otherSource held
    constructor
    · have nothingNew : ∀ r ∈ remarks text,
          (Collector.ofList document held otherSource).refuses r = true := by
        intro r reported
        apply (Collector.keyed_ofList document held otherSource _).mpr
        exact key_mem_validateInto text document initial source reported
      rw [validateInto_eq, Collector.reportAll_of_refuses nothingNew]
      rfl
    · rw [validate_eq, validate_eq]

end StoryScript
