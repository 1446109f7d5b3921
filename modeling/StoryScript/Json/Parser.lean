import StoryScript.Json.Basic

/-!
# Reading JSON

The reader takes standard JSON, and the words for numbers that are not finite. It joins
escaped surrogate pairs into one character; a surrogate that stands alone is refused. Each
step returns the text it has not used. The depth of the recursion is bounded by the length
of the text.
-/

namespace StoryScript

namespace Json

/-- The blanks that may stand between the parts of a JSON text. -/
def isSpace (c : Char) : Bool := c = ' ' || c = '\n' || c = '\r' || c = '\t'

def hexValue? (c : Char) : Option Nat :=
  if c.isDigit then some (c.toNat - '0'.toNat)
  else if 'a' ≤ c ∧ c ≤ 'f' then some (c.toNat - 'a'.toNat + 10)
  else if 'A' ≤ c ∧ c ≤ 'F' then some (c.toNat - 'A'.toNat + 10)
  else none

/-- The number that four hexadecimal digits denote. -/
def unit? (a b c d : Char) : Option Nat :=
  match hexValue? a, hexValue? b, hexValue? c, hexValue? d with
  | some a, some b, some c, some d => some (a * 4096 + b * 256 + c * 16 + d)
  | _, _, _, _ => none

/-- The character that a single letter after a backslash stands for. -/
def shortEscape? : Char → Option Char
  | '"' => some '"'
  | '\\' => some '\\'
  | '/' => some '/'
  | 'n' => some '\n'
  | 'r' => some '\r'
  | 't' => some '\t'
  | 'b' => some '\x08'
  | 'f' => some '\x0c'
  | _ => none

/-- Reads a string after its opening quote. `done` holds the characters read so far,
the last one first, and `high` a high surrogate that waits for its low one. -/
def stringBody (done : List Char) (high : Option Nat) : List Char → Option (String × List Char)
  | [] => none
  | '\\' :: 'u' :: a :: b :: c :: d :: rest =>
    match unit? a b c d, high with
    | none, _ => none
    | some n, some h =>
      if 0xdc00 ≤ n ∧ n < 0xe000 then
        stringBody (Char.ofNat (0x10000 + (h - 0xd800) * 0x400 + (n - 0xdc00)) :: done) none rest
      else none
    | some n, none =>
      if 0xd800 ≤ n ∧ n < 0xdc00 then stringBody done (some n) rest
      else if 0xdc00 ≤ n ∧ n < 0xe000 then none
      else stringBody (Char.ofNat n :: done) none rest
  | '\\' :: e :: rest =>
    match shortEscape? e, high with
    | some c, none => stringBody (c :: done) none rest
    | _, _ => none
  | c :: rest =>
    if high.isSome then none
    else if c = '"' then some (String.ofList done.reverse, rest)
    else if c.toNat < 0x20 then none
    else stringBody (c :: done) none rest

/-- The value of a run of digits. -/
def digitsValue (digits : List Char) : Nat := Nat.ofDigitChars 10 digits 0

/-- Reads the fraction of a number, if one follows. -/
def fraction : List Char → Option (List Char × List Char)
  | '.' :: rest =>
    let digits := rest.takeWhile Char.isDigit
    if digits.isEmpty then none else some (digits, rest.dropWhile Char.isDigit)
  | rest => some ([], rest)

/-- Reads the exponent of a number, if one follows. -/
def exponent (text : List Char) : Option (Option Int × List Char) :=
  match text with
  | c :: rest =>
    if c = 'e' ∨ c = 'E' then
      let (negative, rest) := match rest with
        | '+' :: rest => (false, rest)
        | '-' :: rest => (true, rest)
        | rest => (false, rest)
      let digits := rest.takeWhile Char.isDigit
      let value : Int := digitsValue digits
      if digits.isEmpty then none
      else some (some (if negative then -value else value), rest.dropWhile Char.isDigit)
    else some (none, text)
  | [] => some (none, [])

/-- Reads a number without its sign. -/
def unsigned (negative : Bool) (text : List Char) : Option (Json × List Char) :=
  let digits := text.takeWhile Char.isDigit
  if digits.isEmpty ∨ (digits.head? = some '0' ∧ digits.length ≠ 1) then none
  else
    match fraction (text.dropWhile Char.isDigit) with
    | none => none
    | some (places, rest) =>
      match exponent rest with
      | none => none
      | some (power, rest) =>
        let value : Int := digitsValue (digits ++ places)
        let signed := if negative then -value else value
        if places.isEmpty ∧ power.isNone then some (.int signed, rest)
        else some (.decimal ⟨signed, power.getD 0 - places.length⟩, rest)

/-- Reads a number; infinities are written as a word. -/
def number (text : List Char) : Option (Json × List Char) :=
  let (negative, body) := match text with
    | '-' :: rest => (true, rest)
    | rest => (false, rest)
  match body with
  | 'I' :: 'n' :: 'f' :: 'i' :: 'n' :: 'i' :: 't' :: 'y' :: rest => some (.nonFinite, rest)
  | body => unsigned negative body

mutual

def value : Nat → List Char → Option (Json × List Char)
  | 0, _ => none
  | fuel + 1, text =>
    match text.dropWhile isSpace with
    | 'n' :: 'u' :: 'l' :: 'l' :: rest => some (.null, rest)
    | 't' :: 'r' :: 'u' :: 'e' :: rest => some (.bool true, rest)
    | 'f' :: 'a' :: 'l' :: 's' :: 'e' :: rest => some (.bool false, rest)
    | 'N' :: 'a' :: 'N' :: rest => some (.nonFinite, rest)
    | '"' :: rest =>
      match stringBody [] none rest with
      | some (s, rest) => some (.string s, rest)
      | none => none
    | '[' :: rest =>
      match rest.dropWhile isSpace with
      | ']' :: rest => some (.array [], rest)
      | rest =>
        match value fuel rest with
        | some (item, rest) => items fuel [item] rest
        | none => none
    | '\x7b' :: rest =>
      match rest.dropWhile isSpace with
      | '\x7d' :: rest => some (.object [], rest)
      | rest =>
        match member fuel rest with
        | some (m, rest) => members fuel [m] rest
        | none => none
    | rest => number rest

/-- Reads a name, a colon and a value. -/
def member : Nat → List Char → Option ((String × Json) × List Char)
  | 0, _ => none
  | fuel + 1, text =>
    match text.dropWhile isSpace with
    | '"' :: rest =>
      match stringBody [] none rest with
      | some (name, rest) =>
        match rest.dropWhile isSpace with
        | ':' :: rest =>
          match value fuel rest with
          | some (v, rest) => some ((name, v), rest)
          | none => none
        | _ => none
      | none => none
    | _ => none

/-- Reads what follows an item of an array; `done` holds the items, the last one first. -/
def items : Nat → List Json → List Char → Option (Json × List Char)
  | 0, _, _ => none
  | fuel + 1, done, text =>
    match text.dropWhile isSpace with
    | ']' :: rest => some (.array done.reverse, rest)
    | ',' :: rest =>
      match value fuel rest with
      | some (item, rest) => items fuel (item :: done) rest
      | none => none
    | _ => none

/-- Reads what follows a member of an object; `done` holds the members, the last one first. -/
def members : Nat → List (String × Json) → List Char → Option (Json × List Char)
  | 0, _, _ => none
  | fuel + 1, done, text =>
    match text.dropWhile isSpace with
    | '\x7d' :: rest => some (.object done.reverse, rest)
    | ',' :: rest =>
      match member fuel rest with
      | some (m, rest) => members fuel (m :: done) rest
      | none => none
    | _ => none

end

/-- Reads a text that holds one value and, around it, nothing but space. -/
def parse? (text : String) : Option Json :=
  let text := text.toList
  match value (2 * text.length + 1) text with
  | some (v, rest) => if rest.all isSpace then some v else none
  | none => none

end Json

end StoryScript
