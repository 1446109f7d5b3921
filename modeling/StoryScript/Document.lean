import StoryScript.Position

/-!
# Documents

A document turns character offsets into positions. It keeps the offset at which
each line starts; the line of an offset is the last one that starts at or before
it, found by bisection. Lines end with a carriage return, a line feed, or the two
in this order as one break. Offsets outside the text are moved to its nearer end.
-/

namespace StoryScript

/-- Whether a line ends after a character: after every line feed, and after a carriage
return unless a line feed follows. -/
def endsLine (c : Char) (rest : List Char) : Bool :=
  c == '\n' || (c == '\r' && rest.head? != some '\n')

/-- Adds to `starts` the offset after each line break of `text`, whose first
character has offset `index`. -/
def lineStartsFrom (starts : Array Nat) (index : Nat) : List Char → Array Nat
  | [] => starts
  | c :: rest =>
    lineStartsFrom (if endsLine c rest then starts.push (index + 1) else starts) (index + 1) rest

/-- The offsets at which the lines of a text start; the first line starts at 0. -/
def lineStarts (text : List Char) : Array Nat := lineStartsFrom #[0] 0 text

/-- Starts found before stay in front and have no influence on the rest. -/
theorem toList_lineStartsFrom (starts : Array Nat) (index : Nat) (text : List Char) :
    (lineStartsFrom starts index text).toList =
      starts.toList ++ (lineStartsFrom #[] index text).toList := by
  induction text generalizing starts index with
  | nil => simp [lineStartsFrom]
  | cons c rest inductionHypothesis =>
    simp only [lineStartsFrom]
    rw [inductionHypothesis, inductionHypothesis (if endsLine c rest then _ else _)]
    split <;> simp

/-- The last index in `[low, high)` whose entry is at most `offset`, given that the
entry at `low` is and that entries increase. -/
def lastStart (starts : Array Nat) (offset low high : Nat) : Nat :=
  if low + 1 < high then
    let middle := (low + high) / 2
    if starts.getD middle 0 ≤ offset then lastStart starts offset middle high
    else lastStart starts offset low middle
  else low
termination_by high - low

structure Document where
  uri : String
  length : Nat
  lineStarts : Array Nat
  deriving Repr

namespace Document

/-- The name of a document that has no place of its own. -/
def defaultUri : String := "<string>"

def ofText (text : List Char) (uri : String := defaultUri) : Document :=
  ⟨uri, text.length, StoryScript.lineStarts text⟩

/-- The offset inside the document that is nearest to a given one. -/
def clamp (doc : Document) (offset : Int) : Nat := min offset.toNat doc.length

def positionAt (doc : Document) (offset : Int) : Position :=
  let place := doc.clamp offset
  let line := lastStart doc.lineStarts place 0 doc.lineStarts.size
  ⟨line, place - doc.lineStarts.getD line 0⟩

/-- The span of the characters from `start` up to `stop`. -/
def span (doc : Document) (start stop : Int) : Span :=
  ⟨doc.positionAt start, doc.positionAt stop⟩

theorem clamp_le_length (doc : Document) (offset : Int) : doc.clamp offset ≤ doc.length :=
  Nat.min_le_right _ _

end Document

end StoryScript
