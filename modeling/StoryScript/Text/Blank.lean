/-!
# Blank characters

Tokens of a form are separated by blanks, and a form or a line of dialogue that
holds nothing else counts as empty. The class is wider than ASCII: it takes in
the separator controls, the no-break spaces and the typographic spaces. The zero
width space and the byte order mark are ordinary characters.
-/

namespace StoryScript

/-- Tabs and line ends, the four separator controls, and every space of Unicode. -/
def isBlank (c : Char) : Bool :=
  let n := c.toNat
  if n < 0x80 then (9 ≤ n && n ≤ 13) || (28 ≤ n && n ≤ 32)
  else n == 0x85 || n == 0xA0 || n == 0x1680 || (0x2000 ≤ n && n ≤ 0x200A) ||
    n == 0x2028 || n == 0x2029 || n == 0x202F || n == 0x205F || n == 0x3000

/-- A text without a visible character; the empty text is one. -/
def allBlank (text : List Char) : Bool := text.all isBlank

@[simp] theorem allBlank_iff (text : List Char) :
    allBlank text = true ↔ ∀ c ∈ text, isBlank c = true := by simp [allBlank]

theorem allBlank_iff_dropWhile (text : List Char) :
    allBlank text = true ↔ text.dropWhile isBlank = [] := by
  induction text with
  | nil => simp
  | cons c rest inductionHypothesis => by_cases h : isBlank c = true <;> simp_all

/-- A run of characters ends where a text stops having the property that they share. -/
theorem takeWhile_run {p : Char → Bool} {run rest : List Char} (shared : ∀ c ∈ run, p c = true)
    (stops : ∀ c ∈ rest.head?, p c = false) : (run ++ rest).takeWhile p = run := by
  rw [List.takeWhile_append_of_pos shared]
  cases rest with
  | nil => simp
  | cons c more => simp [stops c rfl]

theorem dropWhile_run {p : Char → Bool} {run rest : List Char} (shared : ∀ c ∈ run, p c = true)
    (stops : ∀ c ∈ rest.head?, p c = false) : (run ++ rest).dropWhile p = rest := by
  rw [List.dropWhile_append_of_pos shared]
  cases rest with
  | nil => simp
  | cons c more => simp [stops c rfl]

/-- What is left behind a run does not go on with it. -/
theorem dropWhile_stops (p : Char → Bool) (text : List Char) :
    ∀ c ∈ (text.dropWhile p).head?, p c = false := by
  intro c first
  have stopped := List.head?_dropWhile_not p text
  rw [Option.mem_def.mp first] at stopped
  simpa using stopped

/-- Drops blanks from both ends. -/
def trim (blank : Char → Bool) (text : List Char) : List Char :=
  ((text.dropWhile blank).reverse.dropWhile blank).reverse

end StoryScript
