import StoryScript.Finding
import StoryScript.Form
import StoryScript.Keyword

/-!
# Rules

What is checked of a single form. Its keyword has to be known, the number of
arguments has to be in the keyword's bounds, and some keywords have a rule on what
their arguments say. Rules about labels see all labels that the script declares.
-/

namespace StoryScript

/-- A rule reads the declared labels and the arguments of a form. -/
abbrev Rule := List String → List String → List Finding

/-- The characters of a name after the first: ASCII letters and digits, `_` and `-`. -/
def isNamePart (c : Char) : Bool := c.isAlphanum || c = '_' || c = '-'

def isNameWith (initial : Char → Bool) (name : String) : Bool :=
  match name.toList with
  | [] => false
  | c :: rest => initial c && rest.all isNamePart

def isLabelName (name : String) : Bool := isNameWith Char.isAlpha name

def isVariableName (name : String) : Bool := isNameWith (fun c => c.isAlpha || c = '_') name

namespace Rule

def label : Rule := fun labels args =>
  let name := args.headD ""
  Finding.when (1 < labels.count name) (.duplicateLabel name) ++
  Finding.when (isLabelName name = false) (.invalidLabelName name)

/-- The line has to be quoted. With three arguments the second one is the word
`speaker` and the third one names who speaks. -/
def dialogue : Rule := fun _ args =>
  match literal? (args.headD "") with
  | none => [.unquotedDialogue]
  | some line =>
    Finding.when (allBlank line.toList) .emptyDialogue ++
    match args with
    | [_, marker, name] =>
      Finding.when (marker ≠ "speaker") .misplacedSpeaker ++
      Finding.when (allBlank (unquote name).toList) .missingSpeaker
    | _ => []

def after : Rule := fun _ args =>
  let action := args.headD ""
  Finding.when (action ∉ afterActions) (.unknownAction action)

def jump : Rule := fun labels args =>
  match args with
  | [] => []
  | target :: _ => Finding.when (target ≠ "end" ∧ target ∉ labels) (.undefinedJump target)

def start : Rule := fun labels args =>
  match args with
  | [] => []
  | target :: _ => Finding.when (target ∉ labels) (.undefinedStart target)

def assign : Rule := fun _ args =>
  let name := args.headD ""
  Finding.when (isVariableName name = false) (.invalidVariableName name)

end Rule

/-- The rule of a keyword, for those that have one. -/
def Keyword.rule? : Keyword → Option Rule
  | .label => some Rule.label
  | .dialogue => some Rule.dialogue
  | .after => some Rule.after
  | .jump => some Rule.jump
  | .start => some Rule.start
  | .assign => some Rule.assign
  | _ => none

namespace Form

/-- The findings about a form whose keyword is `k`. -/
def keywordFindings (k : Keyword) (labels : List String) (form : Form) : List Finding :=
  Finding.when (k.arity.tooFew form.args.length) (.tooFewArgs form.keyword) ++
  Finding.when (k.arity.tooMany form.args.length) (.tooManyArgs form.keyword) ++
  match k.rule? with
  | some rule => rule labels form.args
  | none => []

/-- All findings about a form, in the order in which they are reported. -/
def findings (labels : List String) (form : Form) : List Finding :=
  match Keyword.ofName? form.keyword with
  | some k => form.keywordFindings k labels
  | none => Finding.when (isOperator form.keyword = false) (.unknownKeyword form.keyword)

theorem findings_of_name (labels : List String) (k : Keyword) (args : List String) :
    findings labels ⟨k.name, args⟩ = keywordFindings k labels ⟨k.name, args⟩ := by
  rw [findings, Keyword.ofName?_name]

end Form

end StoryScript
