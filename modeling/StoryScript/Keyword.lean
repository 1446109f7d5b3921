/-!
# Keywords

The words that a form may start with, with the number of arguments each one takes
and the text that documents it. The arithmetic and comparison operators may stand
in the same place and are not checked further.
-/

namespace StoryScript

/-- How many arguments are expected: at least `least` and, if there is a bound, at
most `most`. -/
structure Arity where
  least : Int
  most : Option Int := none
  deriving DecidableEq, Repr

namespace Arity

def tooFew (a : Arity) (count : Nat) : Bool := (count : Int) < a.least

def tooMany (a : Arity) (count : Nat) : Bool := a.most.any (· < (count : Int))

/-- Bounds are shown as `1`, `1-3` or `2+`. -/
def render (a : Arity) : String :=
  match a.most with
  | none => a.least.repr ++ "+"
  | some most => if most = a.least then a.least.repr else a.least.repr ++ "-" ++ most.repr

end Arity

inductive Keyword where
  | label
  | dialogue
  | choice
  | say
  | sound
  | background
  | character
  | after
  | jump
  | start
  | assign
  | finish
  | expression
  deriving DecidableEq, Repr

namespace Keyword

/-- Every keyword, in the order in which references list them. -/
def all : List Keyword :=
  [.label, .dialogue, .choice, .say, .sound, .background, .character, .after, .jump, .start,
    .assign, .finish, .expression]

/-- The word as it is written in a script. -/
def name : Keyword → String
  | .label => "label"
  | .dialogue => "dialogue"
  | .choice => "choice"
  | .say => "say"
  | .sound => "sound"
  | .background => "bg"
  | .character => "char"
  | .after => "after"
  | .jump => "jump"
  | .start => "start"
  | .assign => "set"
  | .finish => "end"
  | .expression => "exp"

def ofName? (word : String) : Option Keyword := all.find? (·.name = word)

@[simp] theorem ofName?_name (k : Keyword) : ofName? k.name = some k := by cases k <;> rfl

theorem name_of_ofName? {word : String} {k : Keyword} (h : ofName? word = some k) :
    k.name = word := by
  simpa using List.find?_some h

def arity : Keyword → Arity
  | .label => ⟨1, none⟩
  | .dialogue => ⟨1, some 3⟩
  | .choice => ⟨1, none⟩
  | .say => ⟨1, some 1⟩
  | .sound => ⟨1, some 1⟩
  | .background => ⟨1, some 1⟩
  | .character => ⟨1, some 3⟩
  | .after => ⟨1, none⟩
  | .jump => ⟨1, some 1⟩
  | .start => ⟨1, some 1⟩
  | .assign => ⟨2, none⟩
  | .finish => ⟨0, some 0⟩
  | .expression => ⟨1, some 1⟩

def usage : Keyword → String
  | .label => "(label name)"
  | .dialogue => "(dialogue \"text\" [speaker Character])"
  | .choice => "(choice option...)"
  | .say => "(say text)"
  | .sound => "(sound file)"
  | .background => "(bg image)"
  | .character => "(char name [pose] [position])"
  | .after => "(after load|jump|end|(set ...) ...)"
  | .jump => "(jump label|end)"
  | .start => "(start label)"
  | .assign => "(set variable value...)"
  | .finish => "(end)"
  | .expression => "(exp expression)"

def description : Keyword → String
  | .label => "Declares a jump target. Names start with a letter."
  | .dialogue => "A line of dialogue, optionally attributed to a speaker."
  | .choice => "Presents the player with one or more options."
  | .say => "Narration line."
  | .sound => "Plays a sound effect."
  | .background => "Changes the background image."
  | .character => "Shows a character sprite."
  | .after => "Action to run once the current scene finishes."
  | .jump => "Continues at a declared label, or ends the script."
  | .start => "Entry point of the script. Exactly one is required."
  | .assign => "Assigns a value to a variable."
  | .finish => "Ends the script."
  | .expression => "Evaluates an expression."

end Keyword

/-- The operators that may stand in keyword position, in code point order. -/
def operators : List String := ["%", "*", "+", "-", "/", "="]

/-- The words that may follow `after`; a nested assignment shows up as its opening. -/
def afterActions : List String := ["load", "jump", "end", "(set"]

def isOperator (word : String) : Bool := operators.contains word

def isKnown (word : String) : Bool := (Keyword.ofName? word).isSome || isOperator word

end StoryScript
