import Mathlib.Data.List.Sort
import StoryScript.Proofs.Wording

/-!
# The findings of a form

What there is to find about a form is one table: for each kind of finding the keyword it belongs
to and what has to be wrong. The findings of a form are exactly those that the table gives, each
of them once, in the order of the table.
-/

namespace StoryScript

/-- The table of what there is to find about a form. -/
inductive Form.Draws (labels : List String) (form : Form) : Finding → Prop where
  | unknownKeyword (unnamed : ∀ k : Keyword, k.name ≠ form.keyword)
      (noOperator : form.keyword ∉ operators) : Draws labels form (.unknownKeyword form.keyword)
  | tooFewArgs (k : Keyword) (named : k.name = form.keyword)
      (few : form.args.length < k.arity.least) : Draws labels form (.tooFewArgs form.keyword)
  | tooManyArgs (k : Keyword) (named : k.name = form.keyword) (most : Int)
      (bound : k.arity.most = some most) (many : most < form.args.length) :
      Draws labels form (.tooManyArgs form.keyword)
  | duplicateLabel (named : form.keyword = "label") (repeated : 1 < labels.count (form.arg 0)) :
      Draws labels form (.duplicateLabel (form.arg 0))
  | invalidLabelName (named : form.keyword = "label")
      (invalid : isLabelName (form.arg 0) = false) :
      Draws labels form (.invalidLabelName (form.arg 0))
  | unquotedDialogue (named : form.keyword = "dialogue")
      (unquoted : isQuoted (form.arg 0) = false) : Draws labels form .unquotedDialogue
  | emptyDialogue (named : form.keyword = "dialogue") (quoted : isQuoted (form.arg 0) = true)
      (empty : allBlank (unquote (form.arg 0)).toList = true) : Draws labels form .emptyDialogue
  | misplacedSpeaker (named : form.keyword = "dialogue") (quoted : isQuoted (form.arg 0) = true)
      (three : form.args.length = 3) (otherWord : form.arg 1 ≠ "speaker") :
      Draws labels form .misplacedSpeaker
  | missingSpeaker (named : form.keyword = "dialogue") (quoted : isQuoted (form.arg 0) = true)
      (three : form.args.length = 3) (nobody : allBlank (unquote (form.arg 2)).toList = true) :
      Draws labels form .missingSpeaker
  | unknownAction (named : form.keyword = "after") (unknown : form.arg 0 ∉ afterActions) :
      Draws labels form (.unknownAction (form.arg 0))
  | undefinedJump (named : form.keyword = "jump") (hasTarget : form.args ≠ [])
      (goesOn : form.arg 0 ≠ "end") (undeclared : form.arg 0 ∉ labels) :
      Draws labels form (.undefinedJump (form.arg 0))
  | undefinedStart (named : form.keyword = "start") (hasTarget : form.args ≠ [])
      (undeclared : form.arg 0 ∉ labels) : Draws labels form (.undefinedStart (form.arg 0))
  | invalidVariableName (named : form.keyword = "set")
      (invalid : isVariableName (form.arg 0) = false) :
      Draws labels form (.invalidVariableName (form.arg 0))

namespace Finding

/-- One finding is reported before another one about the same form. -/
def Before (f g : Finding) : Prop := Form.leads.idxOf f.lead < Form.leads.idxOf g.lead

instance : Std.Irrefl Before := ⟨fun _ => Nat.lt_irrefl _⟩

instance : Std.Antisymm Before := ⟨fun _ _ before after => absurd before (Nat.lt_asymm after)⟩

theorem pairwise_before {found : List Finding} (ordered : (found.map lead).Sublist Form.leads) :
    found.Pairwise Before := by
  have increasing :
      Form.leads.Pairwise fun lead lead' => Form.leads.idxOf lead < Form.leads.idxOf lead' := by
    decide
  have mapped := increasing.sublist ordered
  rw [List.pairwise_map] at mapped
  exact mapped

end Finding

namespace Rule

theorem headD_args (form : Form) : form.args.headD "" = form.arg 0 := by
  unfold Form.arg
  cases form.args <;> rfl

variable (labels : List String) (form : Form) (f : Finding)

theorem mem_label_iff :
    f ∈ label labels form.args ↔
      (1 < labels.count (form.arg 0) ∧ f = .duplicateLabel (form.arg 0)) ∨
      (isLabelName (form.arg 0) = false ∧ f = .invalidLabelName (form.arg 0)) := by
  simp only [label, headD_args, List.mem_append, Finding.mem_when]

theorem mem_dialogue_iff :
    f ∈ dialogue labels form.args ↔
      (isQuoted (form.arg 0) = false ∧ f = .unquotedDialogue) ∨
      (isQuoted (form.arg 0) = true ∧
        ((allBlank (unquote (form.arg 0)).toList = true ∧ f = .emptyDialogue) ∨
        (form.args.length = 3 ∧
          ((form.arg 1 ≠ "speaker" ∧ f = .misplacedSpeaker) ∨
          (allBlank (unquote (form.arg 2)).toList = true ∧ f = .missingSpeaker))))) := by
  obtain ⟨keyword, args⟩ := form
  simp only [isQuoted, ← headD_args]
  cases quoted : literal? (args.headD "") with
  | none =>
      simp only [dialogue, quoted, List.mem_singleton, Option.isSome_none, true_and, reduceCtorEq,
        false_and, or_false]
  | some line =>
      have inner : unquote (args.headD "") = line := by rw [unquote, quoted, Option.getD_some]
      simp only [dialogue, quoted, inner, List.mem_append, Finding.mem_when, Option.isSome_some,
        reduceCtorEq, false_and, false_or, true_and]
      apply or_congr_right
      split
      · simp [Form.arg]
      · next notThree =>
        have lengthNe : args.length ≠ 3 := by
          intro three
          obtain ⟨a, b, c, rfl⟩ := List.length_eq_three.mp three
          exact notThree a b c rfl
        simp [lengthNe]

theorem mem_after_iff :
    f ∈ after labels form.args ↔
      form.arg 0 ∉ afterActions ∧ f = .unknownAction (form.arg 0) := by
  simp only [after, headD_args, Finding.mem_when]

theorem mem_jump_iff :
    f ∈ jump labels form.args ↔
      form.args ≠ [] ∧ (form.arg 0 ≠ "end" ∧ form.arg 0 ∉ labels) ∧
        f = .undefinedJump (form.arg 0) := by
  unfold jump Form.arg
  cases form.args <;> simp

theorem mem_start_iff :
    f ∈ start labels form.args ↔
      form.args ≠ [] ∧ form.arg 0 ∉ labels ∧ f = .undefinedStart (form.arg 0) := by
  unfold start Form.arg
  cases form.args <;> simp

theorem mem_assign_iff :
    f ∈ assign labels form.args ↔
      isVariableName (form.arg 0) = false ∧ f = .invalidVariableName (form.arg 0) := by
  simp only [assign, headD_args, Finding.mem_when]

end Rule

namespace Keyword

theorem ofName?_eq_some_iff (word : String) (k : Keyword) :
    ofName? word = some k ↔ k.name = word := by
  constructor
  · exact name_of_ofName?
  · rintro rfl
    exact ofName?_name k

theorem ofName?_eq_none_iff (word : String) :
    ofName? word = none ↔ ∀ k : Keyword, k.name ≠ word := by
  simp only [Option.eq_none_iff_forall_ne_some, ne_eq, ofName?_eq_some_iff]

end Keyword

namespace Form

variable {labels : List String} {form : Form} {f : Finding}

theorem mem_findings_of_name {k : Keyword} (named : k.name = form.keyword) :
    f ∈ form.findings labels ↔
      (form.args.length < k.arity.least ∧ f = .tooFewArgs form.keyword) ∨
      ((∃ most, k.arity.most = some most ∧ most < form.args.length) ∧
        f = .tooManyArgs form.keyword) ∨
      ∃ rule, k.rule? = some rule ∧ f ∈ rule labels form.args := by
  rw [findings, (Keyword.ofName?_eq_some_iff _ k).mpr named]
  simp only [keywordFindings, List.mem_append, Finding.mem_when, or_assoc, Arity.tooFew,
    Arity.tooMany, decide_eq_true_eq, Option.any_eq_true]
  cases k.rule? <;> simp

theorem mem_findings_of_unnamed (unnamed : ∀ k : Keyword, k.name ≠ form.keyword) :
    f ∈ form.findings labels ↔
      form.keyword ∉ operators ∧ f = .unknownKeyword form.keyword := by
  rw [findings, (Keyword.ofName?_eq_none_iff _).mpr unnamed]
  simp only [Finding.mem_when, isOperator, ← Bool.not_eq_true, List.contains_iff_mem]

theorem draws_of_mem_rule
    {k : Keyword} (named : k.name = form.keyword) {rule : Rule} (has : k.rule? = some rule)
    (found : f ∈ rule labels form.args) : form.Draws labels f := by
  cases k <;> simp only [Keyword.rule?, Option.some.injEq, reduceCtorEq] at has <;> subst has
  case label =>
    rcases (Rule.mem_label_iff ..).mp found with ⟨repeated, rfl⟩ | ⟨invalid, rfl⟩
    · exact .duplicateLabel named.symm repeated
    · exact .invalidLabelName named.symm invalid
  case dialogue =>
    rcases (Rule.mem_dialogue_iff ..).mp found with ⟨unquoted, rfl⟩ |
      ⟨quoted, ⟨empty, rfl⟩ | ⟨three, ⟨otherWord, rfl⟩ | ⟨nobody, rfl⟩⟩⟩
    · exact .unquotedDialogue named.symm unquoted
    · exact .emptyDialogue named.symm quoted empty
    · exact .misplacedSpeaker named.symm quoted three otherWord
    · exact .missingSpeaker named.symm quoted three nobody
  case after =>
    obtain ⟨unknown, rfl⟩ := (Rule.mem_after_iff ..).mp found
    exact .unknownAction named.symm unknown
  case jump =>
    obtain ⟨hasTarget, ⟨goesOn, undeclared⟩, rfl⟩ := (Rule.mem_jump_iff ..).mp found
    exact .undefinedJump named.symm hasTarget goesOn undeclared
  case start =>
    obtain ⟨hasTarget, undeclared, rfl⟩ := (Rule.mem_start_iff ..).mp found
    exact .undefinedStart named.symm hasTarget undeclared
  case assign =>
    obtain ⟨invalid, rfl⟩ := (Rule.mem_assign_iff ..).mp found
    exact .invalidVariableName named.symm invalid

theorem draws_of_mem_findings (found : f ∈ form.findings labels) : form.Draws labels f := by
  by_cases named : ∃ k : Keyword, k.name = form.keyword
  · obtain ⟨k, named⟩ := named
    rcases (mem_findings_of_name named).mp found with
      ⟨few, rfl⟩ | ⟨⟨most, bound, many⟩, rfl⟩ | ⟨rule, has, found⟩
    · exact .tooFewArgs k named few
    · exact .tooManyArgs k named most bound many
    · exact draws_of_mem_rule named has found
  · have unnamed : ∀ k : Keyword, k.name ≠ form.keyword := not_exists.mp named
    obtain ⟨noOperator, rfl⟩ := (mem_findings_of_unnamed unnamed).mp found
    exact .unknownKeyword unnamed noOperator

theorem mem_findings_of_rule
    {k : Keyword} (named : form.keyword = k.name) {rule : Rule} (has : k.rule? = some rule)
    (found : f ∈ rule labels form.args) : f ∈ form.findings labels :=
  (mem_findings_of_name named.symm).mpr (.inr (.inr ⟨rule, has, found⟩))

theorem mem_findings_of_draws (draws : form.Draws labels f) : f ∈ form.findings labels := by
  cases draws with
  | unknownKeyword unnamed noOperator =>
      exact (mem_findings_of_unnamed unnamed).mpr ⟨noOperator, rfl⟩
  | tooFewArgs k named few => exact (mem_findings_of_name named).mpr (.inl ⟨few, rfl⟩)
  | tooManyArgs k named most bound many =>
      exact (mem_findings_of_name named).mpr (.inr (.inl ⟨⟨most, bound, many⟩, rfl⟩))
  | duplicateLabel named repeated =>
      have found := (Rule.mem_label_iff labels form _).mpr (.inl ⟨repeated, rfl⟩)
      exact mem_findings_of_rule (k := .label) named rfl found
  | invalidLabelName named invalid =>
      have found := (Rule.mem_label_iff labels form _).mpr (.inr ⟨invalid, rfl⟩)
      exact mem_findings_of_rule (k := .label) named rfl found
  | unquotedDialogue named unquoted =>
      have found := (Rule.mem_dialogue_iff labels form _).mpr (.inl ⟨unquoted, rfl⟩)
      exact mem_findings_of_rule (k := .dialogue) named rfl found
  | emptyDialogue named quoted empty =>
      have found :=
        (Rule.mem_dialogue_iff labels form _).mpr (.inr ⟨quoted, .inl ⟨empty, rfl⟩⟩)
      exact mem_findings_of_rule (k := .dialogue) named rfl found
  | misplacedSpeaker named quoted three otherWord =>
      have found := (Rule.mem_dialogue_iff labels form _).mpr
        (.inr ⟨quoted, .inr ⟨three, .inl ⟨otherWord, rfl⟩⟩⟩)
      exact mem_findings_of_rule (k := .dialogue) named rfl found
  | missingSpeaker named quoted three nobody =>
      have found := (Rule.mem_dialogue_iff labels form _).mpr
        (.inr ⟨quoted, .inr ⟨three, .inr ⟨nobody, rfl⟩⟩⟩)
      exact mem_findings_of_rule (k := .dialogue) named rfl found
  | unknownAction named unknown =>
      have found := (Rule.mem_after_iff labels form _).mpr ⟨unknown, rfl⟩
      exact mem_findings_of_rule (k := .after) named rfl found
  | undefinedJump named hasTarget goesOn undeclared =>
      have found := (Rule.mem_jump_iff labels form _).mpr
        ⟨hasTarget, ⟨goesOn, undeclared⟩, rfl⟩
      exact mem_findings_of_rule (k := .jump) named rfl found
  | undefinedStart named hasTarget undeclared =>
      have found := (Rule.mem_start_iff labels form _).mpr ⟨hasTarget, undeclared, rfl⟩
      exact mem_findings_of_rule (k := .start) named rfl found
  | invalidVariableName named invalid =>
      have found := (Rule.mem_assign_iff labels form _).mpr ⟨invalid, rfl⟩
      exact mem_findings_of_rule (k := .assign) named rfl found

/-- A form has the findings that the table gives. -/
theorem mem_findings_iff : f ∈ form.findings labels ↔ form.Draws labels f :=
  ⟨draws_of_mem_findings, mem_findings_of_draws⟩

/-- Findings in the order of the table are told by their members. -/
theorem eq_of_leads_sublist
    {found found' : List Finding} (ordered : (found.map Finding.lead).Sublist leads)
    (ordered' : (found'.map Finding.lead).Sublist leads) (same : ∀ f, f ∈ found ↔ f ∈ found') :
    found = found' :=
  (Finding.pairwise_before ordered).eq_of_mem_iff (Finding.pairwise_before ordered') same

/-- The findings of a form are the list that holds what the table gives, in its order. -/
theorem eq_findings_iff (found : List Finding) :
    found = form.findings labels ↔
      (found.map Finding.lead).Sublist leads ∧ ∀ f, f ∈ found ↔ form.Draws labels f := by
  constructor
  · rintro rfl
    exact ⟨form.leads_findings labels, fun f => mem_findings_iff⟩
  · rintro ⟨ordered, drawn⟩
    apply eq_of_leads_sublist ordered (form.leads_findings labels)
    exact fun f => (drawn f).trans mem_findings_iff.symm

end Form

end StoryScript
