/-!
# Paired parentheses

One pass over a text pairs its parentheses. Openers wait on a stack and a closer
takes the most recent one, so pairs are found in the order of their closers and a
form comes after all forms nested in it. A closer that finds no opener is a stray;
openers that are never closed stay pending.
-/

namespace StoryScript

/-- A matched pair of parentheses, given by their indices in the text. -/
structure Pair where
  opener : Nat
  closer : Nat
  deriving DecidableEq, Repr

namespace Pair

/-- The part of a text strictly between the two parentheses. -/
def content (text : Array Char) (p : Pair) : List Char :=
  (text.extract (p.opener + 1) p.closer).toList

theorem content_toArray (text : List Char) (p : Pair) :
    p.content text.toArray = (text.drop (p.opener + 1)).take (p.closer - (p.opener + 1)) := by
  simp [content, List.extract_eq_take_drop]

end Pair

/-- The state of the pass before the character at `index`. The most recent of the
pending openers comes first. -/
structure Pairing where
  index : Nat := 0
  pending : List Nat := []
  strays : Nat := 0
  pairs : Array Pair := #[]
  deriving DecidableEq, Repr

namespace Pairing

/-- Reads one character. -/
def step (s : Pairing) (c : Char) : Pairing :=
  match s with
  | ⟨index, pending, strays, pairs⟩ =>
    if c = '(' then ⟨index + 1, index :: pending, strays, pairs⟩
    else if c = ')' then
      match pending with
      | [] => ⟨index + 1, [], strays + 1, pairs⟩
      | opener :: others => ⟨index + 1, others, strays, pairs.push ⟨opener, index⟩⟩
    else ⟨index + 1, pending, strays, pairs⟩

/-- Reads a text. -/
def scan (s : Pairing) (text : List Char) : Pairing := text.foldl step s

/-- The pairing of a whole text. -/
def ofText (text : List Char) : Pairing := scan {} text

@[simp] theorem scan_nil (s : Pairing) : s.scan [] = s := rfl

@[simp] theorem scan_cons (s : Pairing) (c : Char) (text : List Char) :
    s.scan (c :: text) = (s.step c).scan text := rfl

theorem scan_append (s : Pairing) (first second : List Char) :
    s.scan (first ++ second) = (s.scan first).scan second := List.foldl_append

@[simp] theorem index_step (s : Pairing) (c : Char) : (s.step c).index = s.index + 1 := by
  unfold step
  split
  split
  · rfl
  · split
    · split <;> rfl
    · rfl

@[simp] theorem index_scan (s : Pairing) (text : List Char) :
    (s.scan text).index = s.index + text.length := by
  induction text generalizing s with
  | nil => rfl
  | cons c text inductionHypothesis =>
      rw [scan_cons, inductionHypothesis, index_step, List.length_cons]
      omega

end Pairing

/-- The matched pairs of a text, in the order of their closers. -/
def pairs (text : List Char) : List Pair := (Pairing.ofText text).pairs.toList

end StoryScript
