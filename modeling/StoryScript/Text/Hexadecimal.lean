/-!
# Hexadecimal numerals

Escapes name a character by its code point in lower case hexadecimal digits.
-/

namespace StoryScript

/-- The last `width` hexadecimal digits of a number, zeros included. -/
def hexDigits : (width : Nat) → Nat → List Char
  | 0, _ => []
  | width + 1, n => hexDigits width (n / 16) ++ [(n % 16).digitChar]

@[simp] theorem length_hexDigits (width n : Nat) : (hexDigits width n).length = width := by
  induction width generalizing n with
  | zero => rfl
  | succ width inductionHypothesis => simp [hexDigits, inductionHypothesis]

end StoryScript
