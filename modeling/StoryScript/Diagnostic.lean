import StoryScript.Position

/-!
# Diagnostics

A diagnostic is one issue found in a script: how bad it is, where it stands, what
it is and which tool says so. A report is the list of diagnostics for one script;
warnings leave a script valid.
-/

namespace StoryScript

inductive Severity where
  | error
  | warning
  deriving DecidableEq, Repr, Inhabited

namespace Severity

/-- Severities travel as numbers: 1 is an error and 2 a warning. -/
def code : Severity → Int
  | .error => 1
  | .warning => 2

/-- The severity that a number makes; any other number is refused where it is turned into one. -/
def ofCode? (n : Int) : Option Severity :=
  if n = 1 then some .error else if n = 2 then some .warning else none

def label : Severity → String
  | .error => "error"
  | .warning => "warning"

@[simp] theorem ofCode?_code (s : Severity) : ofCode? s.code = some s := by cases s <;> rfl

end Severity

structure Diagnostic where
  severity : Severity
  span : Span
  message : String
  source : String
  deriving DecidableEq, Repr, Inhabited

namespace Diagnostic

/-- The source of diagnostics whose tool does not name itself. -/
def defaultSource : String := "vnscript"

/-- Two diagnostics with the same start and message are the same issue, whatever
their severity and stop. -/
structure Key where
  start : Position
  message : String
  deriving DecidableEq, Repr, Inhabited

namespace Key

instance : Ord Key := ⟨compareLex (compareOn start) (compareOn message)⟩

instance : Std.TransOrd Key :=
  inferInstanceAs (Std.TransCmp (compareLex (compareOn start) (compareOn message)))

instance : Std.LawfulEqOrd Key where
  eq_of_compare {a b} h := by
    obtain ⟨sameStart, sameMessage⟩ := Ordering.then_eq_eq.mp h
    cases a
    cases b
    simp_all [compareOn]

end Key

def key (d : Diagnostic) : Key := ⟨d.span.start, d.message⟩

end Diagnostic

structure Report where
  diagnostics : List Diagnostic := []
  deriving DecidableEq, Repr

namespace Report

def errors (r : Report) : List Diagnostic := r.diagnostics.filter (·.severity = .error)

def warnings (r : Report) : List Diagnostic := r.diagnostics.filter (·.severity = .warning)

def valid (r : Report) : Bool := r.errors.isEmpty

theorem valid_iff (r : Report) :
    r.valid = true ↔ ∀ d ∈ r.diagnostics, d.severity = .warning := by
  simp only [valid, errors, List.isEmpty_iff, List.filter_eq_nil_iff, decide_eq_true_eq]
  refine forall₂_congr fun d _ => ?_
  cases d.severity <;> simp

end Report

end StoryScript
