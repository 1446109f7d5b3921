import StoryScript.Text.Numeral

/-!
# Grouped numerals

Sizes are shown with a comma between groups of three digits, counted from the
right: `5,000,000`. The leading group has no padding and the others have three
digits each. A platform may bound the digits of the integers it writes out, and
usually does so with the same bound as for those it reads.
-/

namespace StoryScript

/-- The last three digits of a number, zeros included. -/
def lastThree (n : Nat) : List Char :=
  [(n / 100 % 10).digitChar, (n / 10 % 10).digitChar, (n % 10).digitChar]

def groupedDigits (n : Nat) : List Char :=
  if n < 1000 then Nat.toDigits 10 n
  else groupedDigits (n / 1000) ++ ',' :: lastThree n
termination_by n

/-- An integer with grouped digits, the sign in front. -/
def grouped : Int → String
  | .ofNat n => String.ofList (groupedDigits n)
  | .negSucc n => String.ofList ('-' :: groupedDigits (n + 1))

/-- How many digits an integer may have that is written out, if that is bounded. -/
abbrev DigitBound := Option Nat

namespace DigitBound

/-- The bound where none is set. -/
def standard : DigitBound := some maxNumeralDigits

/-- Signs and commas do not count. -/
def allows (bound : DigitBound) (n : Int) : Bool :=
  bound.all fun most => (Nat.toDigits 10 n.natAbs).length ≤ most

end DigitBound

/-- An integer with grouped digits, as far as the bound allows it to be written out. -/
def grouped? (bound : DigitBound) (n : Int) : Option String :=
  if bound.allows n then some (grouped n) else none

end StoryScript
