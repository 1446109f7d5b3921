import StoryScript.Diagnostic

/-!
# Findings

Everything that can be wrong with a script, with its severity and its wording.
-/

namespace StoryScript

inductive Finding where
  | unbalanced (opening closing : Nat)
  | unknownKeyword (word : String)
  | tooFewArgs (word : String)
  | tooManyArgs (word : String)
  | duplicateLabel (name : String)
  | invalidLabelName (name : String)
  | unquotedDialogue
  | emptyDialogue
  | misplacedSpeaker
  | missingSpeaker
  | unknownAction (action : String)
  | undefinedJump (target : String)
  | undefinedStart (target : String)
  | invalidVariableName (name : String)
  | missingStart
  | repeatedStart
  deriving DecidableEq, Repr

namespace Finding

/-- Surplus arguments, odd label names and empty lines of dialogue are tolerated. -/
def severity : Finding → Severity
  | .tooManyArgs _ | .invalidLabelName _ | .emptyDialogue => .warning
  | _ => .error

def message : Finding → String
  | .unbalanced opening closing =>
    "Mismatched parentheses: " ++ opening.repr ++ " opening, " ++ closing.repr ++ " closing"
  | .unknownKeyword word => "Unknown keyword '" ++ word ++ "'"
  | .tooFewArgs word => "Too few args for '" ++ word ++ "'"
  | .tooManyArgs word => "Too many args for '" ++ word ++ "'"
  | .duplicateLabel name => "Duplicate label '" ++ name ++ "'"
  | .invalidLabelName name => "Invalid label name '" ++ name ++ "'"
  | .unquotedDialogue => "Dialogue must be enclosed in double quotes"
  | .emptyDialogue => "Empty dialogue"
  | .misplacedSpeaker =>
    "Dialogue with 3 args should use: (dialogue \"dialogue\" speaker Character)"
  | .missingSpeaker => "Speaker name is required"
  | .unknownAction action => "Unknown after action '" ++ action ++ "'"
  | .undefinedJump target => "Jump references undefined label '" ++ target ++ "'"
  | .undefinedStart target => "Start references undefined label '" ++ target ++ "'"
  | .invalidVariableName name => "Invalid variable name '" ++ name ++ "'"
  | .missingStart => "Script must contain a start"
  | .repeatedStart => "Multiple start keywords found"

/-- The findings of one condition: a single one when it holds. -/
def when (condition : Prop) [Decidable condition] (f : Finding) : List Finding :=
  if condition then [f] else []

@[simp] theorem mem_when {condition : Prop} [Decidable condition] {f g : Finding} :
    g ∈ when condition f ↔ condition ∧ g = f := by
  unfold when
  split <;> simp_all

end Finding

end StoryScript
