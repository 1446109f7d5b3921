import StoryScript.Log
import StoryScript.Text.Grouped
import StoryScript.Validation

/-!
# Checkers

A checker validates whole scripts and makes a report of each. Scripts above its size
limit are rejected before anything else is done with them; that is not a diagnostic.
-/

namespace StoryScript

/-- A script of `length` characters is over the limit. -/
structure Rejection where
  length : Nat
  limit : Int
  deriving DecidableEq, Repr

/-- What a rejected caller gets to see: a message for scripts that are not safe to validate, or
only that the message could not be written because a number in it has too many digits. -/
inductive Raised where
  | safety (message : String)
  | tooManyDigits
  deriving DecidableEq, Repr

namespace Rejection

def worded (length limit : String) : String :=
  "Script exceeds maximum size (" ++ length ++ " chars > " ++ limit ++ " limit)"

/-- The message where digits are not bounded. -/
def message (r : Rejection) : String := worded (grouped r.length) (grouped r.limit)

def raised (bound : DigitBound) (r : Rejection) : Raised :=
  match grouped? bound r.length, grouped? bound r.limit with
  | some length, some limit => .safety (worded length limit)
  | _, _ => .tooManyDigits

end Rejection

/-- The size limit where none is set, in characters. -/
def defaultMaxScriptSize : Int := 5000000

structure Checker where
  maxScriptSize : Int := defaultMaxScriptSize
  source : String := Diagnostic.defaultSource
  deriving DecidableEq, Repr

namespace Checker

/-- The record of one completed check. -/
def record (uri : String) (forms diagnostics : Nat) : LogRecord :=
  ⟨.debug, .service,
    "checked " ++ uri ++ ": " ++ forms.repr ++ " forms, " ++ diagnostics.repr ++ " diagnostics"⟩

/-- Validates a script from an empty collector over its own text. -/
def validate (checker : Checker) (text : List Char) (uri : String := Document.defaultUri) :
    Inspection :=
  StoryScript.validate text (Collector.ofList (Document.ofText text uri) [] checker.source)

def check (checker : Checker) (script : String) (uri : String := Document.defaultUri) :
    Logged (Except Rejection Report) :=
  let text := script.toList
  if checker.maxScriptSize < text.length then ⟨[], .error ⟨text.length, checker.maxScriptSize⟩⟩
  else
    let result := checker.validate text uri
    let diagnostics := result.collector.diagnostics.toList
    ⟨[record uri result.formsSeen diagnostics.length], .ok ⟨diagnostics⟩⟩

end Checker

end StoryScript
