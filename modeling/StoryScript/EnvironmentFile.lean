import StoryScript.Text.Blank

/-!
# Environment files

An environment file gives variables in lines `NAME=value`. Blank lines and lines that
start with `#` are skipped, and so are lines that are no assignment. Blanks around the
name and the value do not count, nor does a comment that follows after a blank, nor a byte
order mark at the beginning of the file. A variable that is given again keeps its place and
takes the new value.
-/

namespace StoryScript

namespace EnvironmentFile

/-- Splits a text at its line breaks. `line` holds the characters of the current line, the
last one first. -/
def linesFrom (done : Array (List Char)) (line : List Char) : List Char → Array (List Char)
  | [] => done.push line.reverse
  | c :: rest =>
    if c = '\n' ∨ c = '\r' then linesFrom (done.push line.reverse) [] rest
    else linesFrom done (c :: line) rest

def lines (text : List Char) : List (List Char) := (linesFrom #[] [] text).toList

/-- Cuts off a comment that starts with a blank and `#`. -/
def withoutComment : List Char → List Char
  | [] => []
  | c :: rest =>
    if isBlank c && (rest.dropWhile isBlank).head? == some '#' then []
    else c :: withoutComment rest

/-- The name and the value that a line assigns. -/
def assignment? (line : List Char) : Option (String × String) :=
  let line := line.dropWhile isBlank
  let isNameChar := fun c => !isBlank c && c != '=' && c != '#'
  let name := line.takeWhile isNameChar
  match (line.dropWhile isNameChar).dropWhile isBlank with
  | '=' :: rest =>
    if name.isEmpty then none
    else
      let value := trim isBlank (withoutComment rest)
      some (String.ofList name, String.ofList value)
  | _ => none

/-- Gives a variable a value, at the place where it stands or else at the end. -/
def assign (entries : List (String × String)) (name value : String) : List (String × String) :=
  if entries.any (·.1 = name) then
    entries.map fun entry => if entry.1 = name then (name, value) else entry
  else entries ++ [(name, value)]

/-- A text without the mark that may stand at its very beginning. -/
def withoutMark : List Char → List Char
  | '\uFEFF' :: rest => rest
  | text => text

/-- The variables of an environment file, in the order of their first assignments. -/
def entries (text : String) : List (String × String) :=
  ((lines (withoutMark text.toList)).filterMap assignment?).foldl
    (fun entries (name, value) => assign entries name value) []

end EnvironmentFile

end StoryScript
