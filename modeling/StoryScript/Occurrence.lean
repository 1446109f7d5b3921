import StoryScript.Text.Blank

/-!
# Occurrences

Some checks look for a piece of text wherever it stands, without regard to how
parentheses pair up: declarations of labels, starts, and dialogue whose line is
not quoted. Occurrences are taken from left to right, and the search goes on after
the end of each one, so none starts inside another.
-/

namespace StoryScript

/-- A piece of text found at `start`, with the value that was read from it. -/
structure Occurrence (α : Type) where
  start : Nat
  length : Nat
  value : α
  deriving DecidableEq, Repr

namespace Occurrence

def stop {α : Type} (o : Occurrence α) : Nat := o.start + o.length

end Occurrence

/-- Tells whether a text begins with the piece looked for: its length and its value. -/
abbrev Recognizer (α : Type) := List Char → Option (Nat × α)

namespace Recognizer

/-- Adds the occurrences in a text whose first character has the given index. The
next `skip` characters belong to the occurrence found last. -/
def occurrencesFrom {α : Type} (r : Recognizer α) (found : Array (Occurrence α))
    (index skip : Nat) : List Char → Array (Occurrence α)
  | [] => found
  | c :: rest =>
    match skip with
    | more + 1 => occurrencesFrom r found (index + 1) more rest
    | 0 =>
      match r (c :: rest) with
      | some (length, value) =>
        occurrencesFrom r (found.push ⟨index, length, value⟩) (index + 1) (length - 1) rest
      | none => occurrencesFrom r found (index + 1) 0 rest

def occurrences {α : Type} (r : Recognizer α) (text : List Char) : List (Occurrence α) :=
  (r.occurrencesFrom #[] 0 0 text).toList

/-- Occurrences found before stay in front and have no influence on the rest. -/
theorem toList_occurrencesFrom {α : Type} (r : Recognizer α) (found : Array (Occurrence α))
    (index skip : Nat) (text : List Char) :
    (r.occurrencesFrom found index skip text).toList =
      found.toList ++ (r.occurrencesFrom #[] index skip text).toList := by
  induction text generalizing found index skip with
  | nil => simp [occurrencesFrom]
  | cons c rest inductionHypothesis =>
    cases skip with
    | succ more => simp only [occurrencesFrom]; exact inductionHypothesis found (index + 1) more
    | zero =>
      simp only [occurrencesFrom]
      split
      · next length value _ =>
        rw [inductionHypothesis, inductionHypothesis (#[].push _)]
        simp
      · exact inductionHypothesis found (index + 1) 0

/-- Recognizes an opening parenthesis directly followed by a word and then at least
one blank. Gives the number of characters up to the first visible one, and the text
from there. -/
def opening (word : List Char) (text : List Char) : Option (Nat × List Char) :=
  match text with
  | '(' :: rest =>
    if word.isPrefixOf rest then
      let after := rest.drop word.length
      let blanks := after.takeWhile isBlank
      if blanks.isEmpty then none
      else some (1 + word.length + blanks.length, after.dropWhile isBlank)
    else none
  | _ => none

/-- A label declaration: its value is the name, which ends at a blank or a closer. -/
def label : Recognizer String := fun text =>
  match opening "label".toList text with
  | some (width, rest) =>
    let name := rest.takeWhile fun c => !isBlank c && c != ')'
    if name.isEmpty then none else some (width + name.length, String.ofList name)
  | none => none

def start : Recognizer Unit := fun text =>
  match opening "start".toList text with
  | some (width, _) => some (width, ())
  | none => none

/-- Dialogue whose line does not begin with a quote. It reaches up to the next quote
or closer, over line breaks and further openers, and need not be closed. -/
def unquotedDialogue : Recognizer Unit := fun text =>
  match opening "dialogue".toList text with
  | some (width, rest) =>
    let line := rest.takeWhile fun c => c != '"' && c != ')'
    if line.isEmpty then none else some (width + line.length, ())
  | none => none

end Recognizer

/-- The names of all declared labels, in source order and with repetitions. -/
def declaredLabels (text : List Char) : List String :=
  (Recognizer.label.occurrences text).map (·.value)

end StoryScript
