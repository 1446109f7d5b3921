import StoryScript.Json.Basic
import StoryScript.Text.Hexadecimal

/-!
# Writing JSON

JSON is written in ASCII: every character outside the printable ASCII range is
escaped, those above the basic plane as a pair of surrogates. A layout says where
lines break and what stands after a colon.
-/

namespace StoryScript

namespace Json

/-- The escape of a 16-bit unit. -/
def escapeUnit (n : Nat) : List Char := '\\' :: 'u' :: hexDigits 4 n

/-- How a character is written inside a string. -/
def escapeChar (c : Char) : List Char :=
  if c = '"' then ['\\', '"']
  else if c = '\\' then ['\\', '\\']
  else if c = '\n' then ['\\', 'n']
  else if c = '\r' then ['\\', 'r']
  else if c = '\t' then ['\\', 't']
  else if c = '\x08' then ['\\', 'b']
  else if c = '\x0c' then ['\\', 'f']
  else
    let n := c.toNat
    if 0x20 ≤ n ∧ n ≤ 0x7e then [c]
    else if n < 0x10000 then escapeUnit n
    else
      let offset := n - 0x10000
      escapeUnit (0xd800 + offset / 0x400) ++ escapeUnit (0xdc00 + offset % 0x400)

def renderString (s : String) : List Char := '"' :: (s.toList.flatMap escapeChar ++ ['"'])

/-- However many digits an integer has, they are written. A report only holds positions in its
script and codes, which no bound on digits stops. -/
def renderInt (n : Int) : List Char := n.repr.toList

/-- A number with an exponent, as its mantissa followed by the power of ten. -/
def renderDecimal (d : Decimal) : List Char := renderInt d.mantissa ++ 'e' :: renderInt d.exponent

structure Layout where
  /-- What stands before an element at some depth, and before a closing bracket. -/
  lineBreak : Nat → List Char
  colon : List Char

/-- One element a line, two blanks per level. -/
def Layout.indented : Layout := ⟨fun depth => '\n' :: List.replicate (2 * depth) ' ', [':', ' ']⟩

/-- Everything in one line, without blanks. -/
def Layout.compact : Layout := ⟨fun _ => [], [':']⟩

mutual

/-- The text of a value whose brackets stand at the given depth. -/
def render (layout : Layout) (depth : Nat) : Json → List Char
  | .null => "null".toList
  | .bool true => "true".toList
  | .bool false => "false".toList
  | .int n => renderInt n
  | .decimal d => renderDecimal d
  | .nonFinite => "NaN".toList
  | .string s => renderString s
  | .array [] => ['[', ']']
  | .array (item :: items) =>
    '[' :: (layout.lineBreak (depth + 1) ++ render layout (depth + 1) item ++
      renderItems layout (depth + 1) items ++ layout.lineBreak depth ++ [']'])
  | .object [] => ['\x7b', '\x7d']
  | .object ((name, value) :: members) =>
    '\x7b' :: (layout.lineBreak (depth + 1) ++ renderString name ++ layout.colon ++
      render layout (depth + 1) value ++ renderMembers layout (depth + 1) members ++
      layout.lineBreak depth ++ ['\x7d'])

/-- The items after the first one, each behind a comma. -/
def renderItems (layout : Layout) (depth : Nat) : List Json → List Char
  | [] => []
  | item :: items =>
    ',' :: (layout.lineBreak depth ++ render layout depth item ++ renderItems layout depth items)

/-- The members after the first one, each behind a comma. -/
def renderMembers (layout : Layout) (depth : Nat) : List (String × Json) → List Char
  | [] => []
  | (name, value) :: members =>
    ',' :: (layout.lineBreak depth ++ renderString name ++ layout.colon ++
      render layout depth value ++ renderMembers layout depth members)

end

def print (layout : Layout) (value : Json) : String := String.ofList (value.render layout 0)

end Json

end StoryScript
