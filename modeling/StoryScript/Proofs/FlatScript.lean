import StoryScript.Proofs.ClosedForm
import StoryScript.Proofs.FlatForm

/-!
# Scripts of flat forms

A script that is written as flat forms one after the other is checked form by form. The
inspection visits the forms where they stand, the labels are the first arguments of the
label forms, and the starts are the start forms that have an argument. No parenthesis is
left over, so the search for unquoted dialogue adds nothing to the findings of the forms.
-/

namespace StoryScript

/-- Flat forms in the order in which they are written, with the blanks around them. -/
inductive FlatScript where
  | finish (gap : Gap)
  | next (gap : Gap) (f : FlatForm) (rest : FlatScript)

namespace FlatScript

def text : FlatScript → List Char
  | finish gap => gap.text
  | next gap f rest => gap.text ++ (f.text ++ rest.text)

/-- The forms that are meant. -/
def forms : FlatScript → List Form
  | finish _ => []
  | next _ f rest => f.form :: rest.forms

/-- The forms at the places where they are written, for a text that starts at `offset`. -/
def placed (offset : Nat) : FlatScript → List Visit
  | finish _ => []
  | next gap f rest =>
    let opener := offset + gap.text.length
    ⟨⟨opener, opener + f.content.length + 1⟩, f.form⟩ :: rest.placed (opener + f.text.length)

def labels (script : FlatScript) : List String := script.forms.filterMap (Form.firstOf? .label)

/-- Where the start forms that have an argument stand. -/
def starts (script : FlatScript) : List Nat :=
  (script.placed 0).filterMap fun v => (v.form.firstOf? .start).map fun _ => v.pair.opener

/-- What there is to say about the forms: the findings of each one at its place, and then
whether there is one start. -/
def remarks (script : FlatScript) : List Remark :=
  (script.placed 0).flatMap (Visit.remarks script.labels 0) ++
    startRemarksAt script.text.length script.starts

/-- The findings of the forms are those of the table, and they are reported where the forms are
written. -/
theorem mem_remarks_iff (script : FlatScript) (r : Remark) :
    r ∈ script.remarks ↔
      (∃ v ∈ script.placed 0, ∃ f, v.form.Draws script.labels f ∧
        r = ⟨v.pair.opener, v.pair.closer + 1, f⟩) ∨
      r ∈ startRemarksAt script.text.length script.starts := by
  simp only [remarks, List.mem_append, List.mem_flatMap, Visit.mem_remarks_iff]

theorem forms_placed (script : FlatScript) (offset : Nat) :
    (script.placed offset).map (·.form) = script.forms := by
  induction script generalizing offset with
  | finish gap => rfl
  | next gap f rest inductionHypothesis =>
      rw [placed, List.map_cons, inductionHypothesis, forms]

theorem balanced (script : FlatScript) : Balanced script.text := by
  induction script with
  | finish gap => exact gap.plain.balanced
  | next gap f rest inductionHypothesis =>
      exact gap.plain.balanced.append (f.balanced.append inductionHypothesis)

/-- The forms are visited where they are written. -/
theorem shift_visits (script : FlatScript) (offset : Nat) :
    (visits script.text).map (Visit.shift offset) = script.placed offset := by
  induction script generalizing offset with
  | finish gap => rw [text, visits_of_plain gap.plain, List.map_nil, placed]
  | next gap f rest inductionHypothesis =>
      rw [text, visits_append_of_nonePending gap.plain.balanced.nonePending,
        visits_of_plain gap.plain, visits_append_of_nonePending f.balanced.nonePending,
        f.visits_text, placed, ← inductionHypothesis]
      simp [Visit.shift, Pair.shift, Function.comp_def, Nat.add_assoc]

theorem visits_text (script : FlatScript) : visits script.text = script.placed 0 := by
  have same : Visit.shift 0 = id := by
    funext v
    simp [Visit.shift, Pair.shift]
  rw [← script.shift_visits 0, same, List.map_id]

section Search

variable {α : Type} {r : Recognizer α} (value : Form → Option α)

/-- One form with the blanks in front of it: a search that sees the form as it is meant goes
on behind it. -/
theorem found_next
    (atOpeners : r.AtOpeners) (gap : Gap) (f : FlatForm) (rest : List Char)
    (seen : ∃ length ≤ f.text.length, r (f.text ++ rest) = (value f.form).map (length, ·))
    (index : Nat) :
    (r.found index 0 (gap.text ++ (f.text ++ rest))).map (fun o => (o.start, o.value)) =
      ((value f.form).map (index + gap.text.length, ·)).toList ++
        (r.found (index + gap.text.length + f.text.length) 0 rest).map
          fun o => (o.start, o.value) := by
  obtain ⟨length, inside, recognized⟩ := seen
  have noOpener : '(' ∉ f.content ++ [')'] := by
    intro member
    rcases List.mem_append.mp member with inContent | last
    · exact f.content_plain.not_mem_opener inContent
    · exact absurd last (by decide)
  have width : f.text.length = (f.content ++ [')']).length + 1 := by rw [FlatForm.text]; rfl
  rw [atOpeners.found_append gap.plain.not_mem_opener (Nat.zero_le _)]
  generalize index + gap.text.length = opener
  have behind : ∀ {skip : Nat}, skip ≤ (f.content ++ [')']).length →
      r.found (opener + 1) skip (f.content ++ [')'] ++ rest) =
        r.found (opener + f.text.length) 0 rest := by
    intro skip inside
    rw [atOpeners.found_append noOpener inside, width, Nat.add_assoc, Nat.add_comm 1]
  cases meant : value f.form with
  | none =>
      rw [meant] at recognized
      rw [FlatForm.text, List.cons_append] at recognized ⊢
      rw [r.found_none recognized, behind (Nat.zero_le _)]
      rfl
  | some v =>
      rw [meant] at recognized
      rw [FlatForm.text, List.cons_append] at recognized ⊢
      rw [r.found_some recognized, behind (by omega)]
      rfl

/-- A search that sees every form as it is meant finds the forms where they are written. -/
theorem found_text
    (atOpeners : r.AtOpeners)
    (seen : ∀ (f : FlatForm) (rest : List Char),
      ∃ length ≤ f.text.length, r (f.text ++ rest) = (value f.form).map (length, ·))
    (script : FlatScript) (index : Nat) :
    (r.found index 0 script.text).map (fun o => (o.start, o.value)) =
      (script.placed index).filterMap fun v => (value v.form).map (v.pair.opener, ·) := by
  induction script generalizing index with
  | finish gap =>
      have none := atOpeners.found_append gap.plain.not_mem_opener (Nat.zero_le _) index []
      rw [List.append_nil, r.found_nil] at none
      rw [text, none]
      rfl
  | next gap f rest inductionHypothesis =>
      rw [text, found_next value atOpeners gap f _ (seen f _), inductionHypothesis, placed,
        List.filterMap_cons]
      cases value f.form <;> rfl

end Search

theorem declaredLabels_text (script : FlatScript) : declaredLabels script.text = script.labels := by
  have found := script.found_text (Form.firstOf? .label) Recognizer.label_atOpeners
    FlatForm.label_text 0
  have values := congrArg (List.map Prod.snd) found
  simp only [List.map_map, List.map_filterMap, Option.map_map, Function.comp_def,
    Option.map_id_fun'] at values
  rw [labels, ← script.forms_placed 0, List.filterMap_map]
  exact values

theorem starts_text (script : FlatScript) :
    (Recognizer.start.occurrences script.text).map (·.start) = script.starts := by
  have found := script.found_text (fun form => (form.firstOf? .start).map fun _ => ())
    Recognizer.start_atOpeners FlatForm.start_text 0
  have places := congrArg (List.map Prod.fst) found
  simp only [List.map_map, List.map_filterMap, Option.map_map, Function.comp_def] at places
  exact places

/-- Nothing is left over by the parentheses, and all dialogue is closed. -/
theorem keptRemarks_text (script : FlatScript) : keptRemarks script.text = script.remarks := by
  rw [keptRemarks, firstRemarks, balanceRemarks_of_balanced script.balanced,
    unclosedDialogue_of_nonePending script.balanced.nonePending, startRemarks, starts_text,
    declaredLabels_text, windowRemarks, visits_text, remarks]
  simp

end FlatScript

/-- The text of a list of flat forms is checked as the list is: the inspection visits the forms
in order at their places, the labels are those of the label forms, and the diagnostics are the
findings of each form (the table `Form.Draws` has them all, and `Form.eq_findings_iff` says in
which order they come), followed by what there is to say about the starts. -/
theorem Checker.check_flat_script (checker : Checker) (script : FlatScript) (uri : String) :
    visits script.text = script.placed 0 ∧
    (script.placed 0).map (·.form) = script.forms ∧
    (∀ (i : Inspection) (offset : Int),
      i.window script.text offset =
        { i with
          collector := i.collector.reportAll
            ((script.placed 0).flatMap (Visit.remarks i.labels offset))
          formsSeen := i.formsSeen + script.forms.length }) ∧
    declaredLabels script.text = script.labels ∧
    ((script.text.length : Int) ≤ checker.maxScriptSize →
      (checker.check (String.ofList script.text) uri).value =
        .ok ⟨script.remarks.map
          (Remark.diagnostic (Document.ofText script.text uri) checker.source)⟩) := by
  refine ⟨script.visits_text, script.forms_placed 0, ?_, script.declaredLabels_text, ?_⟩
  · intro i offset
    rw [i.window_eq, windowRemarks, script.visits_text, ← script.forms_placed 0, List.length_map]
  · intro withinLimit
    have checked := checker.check_eq (String.ofList script.text) uri
    rw [String.toList_ofList] at checked
    rw [checked withinLimit, toList_reportAll_remarks, script.keptRemarks_text]

/-- Two starts, of which the second one names no label, and a label that is declared twice. -/
def FlatScript.twoStarts : FlatScript :=
  let space : Separator := { text := [' '] }
  let name : Argument := .bare { text := "intro".toList }
  let label : FlatForm :=
    { keyword := { text := "label".toList }
      args := [(space, name)]
      labelled := by
        rintro _ _ ⟨⟩
        exact ⟨_, rfl⟩ }
  let start (a : Argument) : FlatForm :=
    { keyword := { text := "start".toList }
      args := [({ text := ['\t', ' '] }, a)]
      labelled := fun same => absurd same (by decide) }
  let dialogue : FlatForm :=
    { keyword := { text := "dialogue".toList }
      args := [(space, .literal { text := "two\nlines".toList })]
      labelled := fun same => absurd same (by decide) }
  .next { text := [] } (start name) <|
  .next { text := ['\n'] } label <|
  .next { text := [] } dialogue <|
  .next { text := ['\n', ' '] } label <|
  .next { text := [] } (start (.bare { text := "outro".toList })) <|
  .finish { text := ['\n'] }

theorem Checker.check_flat_script_twoStarts :
    let script := FlatScript.twoStarts
    let checker : Checker := {}
    (script.text.length : Int) ≤ checker.maxScriptSize ∧
    String.ofList script.text =
      "(start\t intro)\n(label intro)(dialogue \"two\nlines\")\n (label intro)(start\t outro)\n" ∧
    declaredLabels script.text = ["intro", "intro"] ∧
    (checker.check (String.ofList script.text) "x").value = .ok ⟨
      ([⟨15, 28, .duplicateLabel "intro"⟩, ⟨52, 65, .duplicateLabel "intro"⟩,
        ⟨65, 79, .undefinedStart "outro"⟩, ⟨65, 75, .repeatedStart⟩] : List Remark).map
          (Remark.diagnostic (Document.ofText script.text "x") checker.source)⟩ := by
  intro script checker
  have withinLimit : (script.text.length : Int) ≤ checker.maxScriptSize := by decide +kernel
  have said : script.remarks =
      [⟨15, 28, .duplicateLabel "intro"⟩, ⟨52, 65, .duplicateLabel "intro"⟩,
        ⟨65, 79, .undefinedStart "outro"⟩, ⟨65, 75, .repeatedStart⟩] := by decide +kernel
  obtain ⟨_, _, _, labels, diagnostics⟩ := checker.check_flat_script script "x"
  rw [said] at diagnostics
  refine ⟨withinLimit, by decide +kernel, ?_, diagnostics withinLimit⟩
  rw [labels]
  decide +kernel

end StoryScript
