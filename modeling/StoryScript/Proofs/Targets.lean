import StoryScript.Proofs.ClosedForm
import StoryScript.Proofs.Seeding

/-!
# Targets of jumps and starts

Jumps and starts name a label, and their rules look the name up among all labels that the
script declares. So whatever a validation says about a declared label, it never says that
the label is undefined, wherever its declaration stands.
-/

namespace StoryScript

namespace Finding

/-- The findings that say that a label is not declared. -/
def undefined (name : String) : List Finding := [.undefinedJump name, .undefinedStart name]

theorem lead_of_undefined {name : String} {f : Finding} (isUndefined : f ∈ undefined name) :
    f.lead ∈ ["Jump referen", "Start refere"] := by
  simp only [undefined, List.mem_cons, List.not_mem_nil, or_false] at isUndefined
  rcases isUndefined with rfl | rfl <;> simp [lead]

theorem eq_of_quoted_eq {front name other : String}
    (same : front ++ name ++ "'" = front ++ other ++ "'") : name = other := by
  have characters := congrArg String.toList same
  simp only [String.toList_append, List.append_assoc, List.append_cancel_left_eq,
    List.append_cancel_right_eq] at characters
  exact String.toList_injective characters

/-- A finding that is worded like one about an undefined label is that finding. -/
theorem eq_of_message_eq_undefined
    {name : String} {f g : Finding} (isUndefined : g ∈ undefined name)
    (same : f.message = g.message) : f = g := by
  have sameLead := lead_eq_of_message_eq same
  simp only [undefined, List.mem_cons, List.not_mem_nil, or_false] at isUndefined
  rcases isUndefined with rfl | rfl
  · cases f with
    | undefinedJump other => rw [eq_of_quoted_eq same]
    | _ => simp [lead] at sameLead
  · cases f with
    | undefinedStart other => rw [eq_of_quoted_eq same]
    | _ => simp [lead] at sameLead

end Finding

/-- What is found to be undefined is not declared. -/
theorem Form.not_mem_of_undefined
    {labels : List String} {form : Form} {name : String} {f : Finding}
    (isUndefined : f ∈ Finding.undefined name) (found : f ∈ form.findings labels) :
    name ∉ labels := by
  simp only [Finding.undefined, List.mem_cons, List.not_mem_nil, or_false] at isUndefined
  rcases isUndefined with rfl | rfl
  · cases mem_findings_iff.mp found with
    | undefinedJump _ _ _ undeclared => exact undeclared
  · cases mem_findings_iff.mp found with
    | undefinedStart _ _ undeclared => exact undeclared

/-- No diagnostic of a validation says of a declared label that it is undefined. -/
theorem message_ne_undefined_of_declared
    {text : List Char} {name : String} (declared : name ∈ declaredLabels text)
    {f : Finding} (isUndefined : f ∈ Finding.undefined name)
    {document : Document} {source : String} {d : Diagnostic}
    (held : d ∈ ((Collector.ofList document [] source).reportAll
      (remarks text)).diagnostics.toList) : d.message ≠ f.message := by
  obtain ⟨r, reported, rfl⟩ := Collector.exists_remark_of_mem_fresh held
  intro same
  rw [← Finding.eq_of_message_eq_undefined isUndefined same] at isUndefined
  have lead := Finding.lead_of_undefined isUndefined
  rw [remarks, firstRemarks, List.mem_append, List.mem_append, List.mem_append] at reported
  rcases reported with ((balance | window) | start) | dialogue
  · rw [lead_of_mem_balanceRemarks balance] at lead
    exact absurd lead (by decide)
  · obtain ⟨v, _, g, found, rfl⟩ := (mem_windowRemarks_iff _ _ _).mp window
    exact Form.not_mem_of_undefined isUndefined found declared
  · have apart : ∀ lead ∈ ["Jump referen", "Start refere"],
        lead ∉ ["Script must ", "Multiple sta"] := by decide
    exact absurd (lead_of_mem_startRemarks start) (apart _ lead)
  · obtain ⟨o, _, rfl⟩ := List.mem_map.mp dialogue
    simp [dialogueRemark, Finding.lead] at lead

end StoryScript
