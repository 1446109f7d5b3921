import StoryScript.Text.Blank

/-!
# Integers spelled in text

A setting or a field may give an integer as text. A plain numeral is a decimal number as
JSON writes it, of limited length. Other spellings are simplified to a plain numeral first:
space around it and a plus sign are dropped, and so are zeros in front, a fraction that
consists of zeros only, and single underscores. Only a text that needs no simplification is
called too long; a spelling of a number with too many digits is malformed.
-/

namespace StoryScript

inductive NumeralFault where
  | malformed
  | tooLong
  deriving DecidableEq, Repr

/-- The space allowed around a numeral: blanks other than the separator controls. -/
def isNumeralSpace (c : Char) : Bool :=
  isBlank c && !(28 ≤ c.toNat && c.toNat ≤ 31)

def maxNumeralDigits : Nat := 4300

/-- Reads a plain numeral without its sign. Only the number zero starts with a zero. The digits
are counted before what follows them is looked at. -/
def readUnsigned (text : List Char) : Except NumeralFault Nat :=
  match text.takeWhile Char.isDigit with
  | [] => .error .malformed
  | '0' :: _ => if text = ['0'] then .ok 0 else .error .malformed
  | digits =>
    if maxNumeralDigits < digits.length then .error .tooLong
    else if text.all Char.isDigit then .ok (Nat.ofDigitChars 10 digits 0)
    else .error .malformed

def readPlain : List Char → Except NumeralFault Int
  | '-' :: text => (readUnsigned text).map fun value => -(value : Int)
  | text => (readUnsigned text).map Int.ofNat

/-- Skips zeros and underscores up to a digit or a minus sign. `last` is the character before,
which stays when the number ends or its fraction starts. -/
def skipZeros (last : Char) : List Char → Option (List Char)
  | [] => some [last]
  | c :: rest =>
    if c = '0' ∨ c = '_' then skipZeros c rest
    else if c = '.' then some (last :: c :: rest)
    else if c.isDigit ∨ c = '-' then some (c :: rest)
    else none

def withoutLeadingZeros : List Char → Option (List Char)
  | [] => none
  | c :: rest =>
    if c = '0' then skipZeros c rest
    else if c.isDigit then some (c :: rest)
    else none

/-- A numeral without a fraction of one or more zeros; any other fraction stays. -/
def withoutZeroFraction (text : List Char) : List Char :=
  match text.dropWhile (· ≠ '.') with
  | _ :: places =>
    if !places.isEmpty && places.all (· = '0') then text.takeWhile (· ≠ '.') else text
  | [] => text

def hasDoubleUnderscore : List Char → Bool
  | '_' :: '_' :: _ => true
  | _ :: rest => hasDoubleUnderscore rest
  | [] => false

/-- Underscores only go if all of them are single and stand inside the numeral. -/
def withoutUnderscores (text : List Char) : List Char :=
  if text.head? = some '_' ∨ text.getLast? = some '_' ∨ hasDoubleUnderscore text then text
  else text.filter (· ≠ '_')

/-- The plain numeral that a spelling stands for, as far as it has the shape of one. -/
def simplified (text : List Char) : Option (List Char) :=
  let unsigned := match trim isNumeralSpace text with
    | '+' :: rest => withoutLeadingZeros rest
    | '-' :: rest => (withoutLeadingZeros rest).map ('-' :: ·)
    | rest => withoutLeadingZeros rest
  unsigned.map fun numeral => withoutUnderscores (withoutZeroFraction numeral)

def readSimplified (text : List Char) : Except NumeralFault Int :=
  match (simplified text).map readPlain with
  | some (.ok value) => .ok value
  | _ => .error .malformed

def readInteger (text : String) : Except NumeralFault Int :=
  match readPlain text.toList with
  | .error .malformed => readSimplified text.toList
  | result => result

end StoryScript
