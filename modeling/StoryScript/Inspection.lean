import StoryScript.Collector
import StoryScript.Pairing
import StoryScript.Rule

/-!
# Inspecting forms

Every matched pair of parentheses with visible content is a form; an inspection
checks each one against its keyword's rules and counts them. The text may be a
window of a larger one: `offset` is where it starts there, and diagnostics are
placed accordingly.
-/

namespace StoryScript

structure Inspection where
  labels : List String
  collector : Collector
  formsSeen : Nat := 0

namespace Inspection

/-- Checks the form in a pair of parentheses of a window at `offset`. -/
def visit (text : Array Char) (offset : Int) (i : Inspection) (p : Pair) : Inspection :=
  match Form.ofContent? (p.content text) with
  | none => i
  | some form =>
    let start := offset + p.opener
    let stop := offset + p.closer + 1
    { i with
      collector := (form.findings i.labels).foldl (·.report start stop) i.collector
      formsSeen := i.formsSeen + 1 }

/-- Checks all forms of a window, in the order in which they close. -/
def window (i : Inspection) (text : List Char) (offset : Int := 0) : Inspection :=
  (pairs text).foldl (visit text.toArray offset) i

end Inspection

end StoryScript
