import StoryScript.Inspection
import StoryScript.Occurrence

/-!
# Validating scripts

A script is validated in four passes over its text: parentheses balance, forms obey
their keywords' rules, there is exactly one start, and no dialogue goes unquoted. The
last pass also reaches dialogue that is never closed; what it finds in closed forms
has been reported before and is refused by the collector.
-/

namespace StoryScript

/-- How much of a repeated start is marked. -/
def startMarkWidth : Nat := 10

namespace Collector

def checkBalance (text : List Char) (c : Collector) : Collector :=
  let opening := text.count '('
  let closing := text.count ')'
  if opening = closing then c else c.report 0 1 (.unbalanced opening closing)

def checkStart (text : List Char) (c : Collector) : Collector :=
  match Recognizer.start.occurrences text with
  | [] => c.report 0 1 .missingStart
  | [_] => c
  | _ :: second :: _ =>
    c.report second.start (min (second.start + startMarkWidth) text.length : Nat) .repeatedStart

def checkDialogue (text : List Char) (c : Collector) : Collector :=
  (Recognizer.unquotedDialogue.occurrences text).foldl
    (fun c o => c.report o.start o.stop .unquotedDialogue) c

end Collector

/-- Validates a text into a collector; the result also counts the forms. -/
def validate (text : List Char) (c : Collector) : Inspection :=
  let first : Inspection := ⟨declaredLabels text, c.checkBalance text, 0⟩
  let i := first.window text
  { i with collector := (i.collector.checkStart text).checkDialogue text }

/-- Validates a text against a document, after the diagnostics already at hand. -/
def validateInto (text : List Char) (document : Document) (initial : List Diagnostic)
    (source : String := Diagnostic.defaultSource) : List Diagnostic :=
  (validate text (Collector.ofList document initial source)).collector.diagnostics.toList

end StoryScript
