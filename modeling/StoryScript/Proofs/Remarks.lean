import Mathlib.Data.List.Nodup
import StoryScript.Checker

/-!
# Remarks

A remark is a finding at a place of a text, before a collector has decided whether to
keep it. Every pass of a validation hands a list of remarks to its collector that
depends on the text alone, so a whole validation is one run over one list, and what a
collector makes of a list of remarks is settled here once.
-/

namespace StoryScript

structure Remark where
  start : Int
  stop : Int
  finding : Finding
  deriving DecidableEq, Repr

namespace Remark

/-- What a collector over `document` knows a remark by. -/
def key (document : Document) (r : Remark) : Diagnostic.Key :=
  ⟨document.positionAt r.start, r.finding.message⟩

def diagnostic (document : Document) (source : String) (r : Remark) : Diagnostic :=
  ⟨r.finding.severity, document.span r.start r.stop, r.finding.message, source⟩

@[simp]
theorem key_diagnostic (document : Document) (source : String) (r : Remark) :
    (r.diagnostic document source).key = r.key document := rfl

end Remark

namespace Collector

def reportAll (c : Collector) (remarks : List Remark) : Collector :=
  remarks.foldl (fun c r => c.report r.start r.stop r.finding) c

@[simp]
theorem reportAll_nil (c : Collector) : c.reportAll [] = c := rfl

@[simp]
theorem reportAll_cons (c : Collector) (r : Remark) (rest : List Remark) :
    c.reportAll (r :: rest) = (c.report r.start r.stop r.finding).reportAll rest := rfl

theorem reportAll_append (c : Collector) (first second : List Remark) :
    c.reportAll (first ++ second) = (c.reportAll first).reportAll second := List.foldl_append

@[simp]
theorem document_report (c : Collector) (start stop : Int) (f : Finding) :
    (c.report start stop f).document = c.document := document_add ..

@[simp]
theorem source_report (c : Collector) (start stop : Int) (f : Finding) :
    (c.report start stop f).source = c.source := source_add ..

@[simp]
theorem document_reportAll (c : Collector) (remarks : List Remark) :
    (c.reportAll remarks).document = c.document := by
  induction remarks generalizing c with
  | nil => rfl
  | cons r rest inductionHypothesis => rw [reportAll_cons, inductionHypothesis, document_report]

@[simp]
theorem source_reportAll (c : Collector) (remarks : List Remark) :
    (c.reportAll remarks).source = c.source := by
  induction remarks generalizing c with
  | nil => rfl
  | cons r rest inductionHypothesis => rw [reportAll_cons, inductionHypothesis, source_report]

/-- Whether a collector would refuse a remark. -/
def refuses (c : Collector) (r : Remark) : Bool := c.seen.contains (r.key c.document)

theorem report_of_refuses {c : Collector} {r : Remark} (refused : c.refuses r = true) :
    c.report r.start r.stop r.finding = c :=
  (c.add_eq ..).trans (if_pos refused)

theorem report_of_not_refuses {c : Collector} {r : Remark} (kept : c.refuses r = false) :
    c.report r.start r.stop r.finding =
      { c with
        diagnostics := c.diagnostics.push (r.diagnostic c.document c.source)
        seen := c.seen.insert (r.key c.document) } := by
  have fresh : ¬ c.holds r.start r.finding.message = true := by
    change ¬ c.refuses r = true
    simp [kept]
  exact (c.add_eq ..).trans (if_neg fresh)

theorem contains_seen_report (c : Collector) (r : Remark) (k : Diagnostic.Key) :
    (c.report r.start r.stop r.finding).seen.contains k = true ↔
      k = r.key c.document ∨ c.seen.contains k = true := by
  cases refused : c.refuses r with
  | true =>
      rw [report_of_refuses refused]
      constructor
      · exact .inr
      · rintro (rfl | held)
        · exact refused
        · exact held
  | false =>
      rw [report_of_not_refuses refused]
      exact contains_insert_iff _ _ _

/-- After a run the keys held are those held before and those of the remarks. -/
theorem contains_seen_reportAll (c : Collector) (remarks : List Remark) (k : Diagnostic.Key) :
    (c.reportAll remarks).seen.contains k = true ↔
      k ∈ remarks.map (Remark.key c.document) ∨ c.seen.contains k = true := by
  induction remarks generalizing c with
  | nil => simp
  | cons r rest inductionHypothesis =>
      rw [reportAll_cons, inductionHypothesis, contains_seen_report, document_report,
        List.map_cons, List.mem_cons, or_left_comm, or_assoc]

theorem refuses_reportAll_iff (c : Collector) (remarks : List Remark) (r : Remark) :
    (c.reportAll remarks).refuses r = true ↔
      r.key c.document ∈ remarks.map (Remark.key c.document) ∨ c.refuses r = true := by
  rw [refuses, document_reportAll, contains_seen_reportAll]
  rfl

/-- A run over remarks that are all held already changes nothing. -/
theorem reportAll_of_refuses
    {c : Collector} {remarks : List Remark} (refused : ∀ r ∈ remarks, c.refuses r = true) :
    c.reportAll remarks = c := by
  induction remarks with
  | nil => rfl
  | cons r rest inductionHypothesis =>
      rw [reportAll_cons, report_of_refuses (refused r (by simp))]
      exact inductionHypothesis fun s member => refused s (by simp [member])

/-- Remarks with different keys do not get in each other's way: those that were not held
before are kept, in their order. -/
theorem toList_reportAll_of_nodup
    (c : Collector) {remarks : List Remark}
    (different : (remarks.map (Remark.key c.document)).Nodup) :
    (c.reportAll remarks).diagnostics.toList =
      c.diagnostics.toList ++
        (remarks.filter fun r => !c.refuses r).map (Remark.diagnostic c.document c.source) := by
  induction remarks generalizing c with
  | nil => simp
  | cons r rest inductionHypothesis =>
      rw [List.map_cons, List.nodup_cons] at different
      obtain ⟨fresh, different⟩ := different
      have unaffected : ∀ s ∈ rest,
          (!(c.report r.start r.stop r.finding).refuses s) = !c.refuses s := by
        intro s member
        have other : s.key c.document ≠ r.key c.document := by
          intro same
          exact fresh (same ▸ List.mem_map_of_mem member)
        have kept := contains_seen_report c r (s.key c.document)
        simp only [other, false_or] at kept
        rw [refuses, document_report, Bool.eq_iff_iff.mpr kept, refuses]
      rw [reportAll_cons, inductionHypothesis _ (by rwa [document_report]),
        List.filter_congr unaffected, document_report, source_report]
      cases refused : c.refuses r with
      | true => rw [report_of_refuses refused, List.filter_cons_of_neg (by simp [refused])]
      | false =>
          rw [report_of_not_refuses refused, List.filter_cons_of_pos (by simp [refused])]
          simp

end Collector

end StoryScript
