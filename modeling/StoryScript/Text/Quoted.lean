import StoryScript.Text.Hexadecimal
import StoryScript.Text.Printable

/-!
# Quoted text

A text that is quoted in a message stands in single quotes, or in double quotes when it
holds a single quote and no double one. The quote in use and the backslash are escaped,
and so is every character that is not printable.
-/

namespace StoryScript

/-- The escape of a code point, in the shortest of three widths. -/
def escapeCode (n : Nat) : List Char :=
  if n < 0x100 then '\\' :: 'x' :: hexDigits 2 n
  else if n < 0x10000 then '\\' :: 'u' :: hexDigits 4 n
  else '\\' :: 'U' :: hexDigits 8 n

def quoteChar (quote c : Char) : List Char :=
  if c = quote ∨ c = '\\' then ['\\', c]
  else if c = '\n' then ['\\', 'n']
  else if c = '\r' then ['\\', 'r']
  else if c = '\t' then ['\\', 't']
  else if isPrintable c then [c]
  else escapeCode c.toNat

def quoted (text : String) : String :=
  let chars := text.toList
  let quote := if '\'' ∈ chars ∧ '"' ∉ chars then '"' else '\''
  String.ofList (quote :: (chars.flatMap (quoteChar quote) ++ [quote]))

end StoryScript
