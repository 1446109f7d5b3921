import StoryScript.Keyword

/-!
# Reference texts

The documentation that the server hands out: the keyword reference in Markdown, the short
list of keywords, and a guide for writing scripts. The tables are made from the keywords
themselves.
-/

namespace StoryScript

namespace Reference

def joinLines (lines : List String) : String := "\n".intercalate lines

/-- The row of a keyword in the reference table. -/
def row (k : Keyword) : String :=
  "| " ++ k.name ++ " | " ++ k.arity.render ++ " | `" ++ k.usage ++ "` | " ++ k.description ++ " |"

def intro : List String :=
  ["# vnscript Keyword Reference",
    "",
    "A script is a sequence of parenthesized forms: `(keyword arg1 arg2 ...)`.",
    "Arguments are whitespace-separated tokens or double-quoted literals.",
    "Forms may nest, e.g. `(after (set score 10))`.",
    "",
    "## Keywords",
    "",
    "| Keyword | Args | Usage | Description |",
    "|---|---|---|---|"]

def outro : List String :=
  ["",
    "## Operators",
    "",
    "`" ++ " ".intercalate operators ++ "` may appear in keyword position,",
    "e.g. `(+ score 1)`. Their arguments are not checked.",
    "",
    "## Key Rules",
    "",
    "1. Exactly one `(start label)` per script, naming a declared label.",
    "2. Label names start with a letter, then letters, digits, `_` or `-`.",
    "   Each label may be declared only once.",
    "3. `(jump x)` needs a declared label `x`, or the literal `end`.",
    "4. Dialogue text must be double-quoted; the three-argument form is",
    "   `(dialogue \"text\" speaker Name)`.",
    "5. `after` accepts: " ++ ", ".intercalate afterActions ++ ".",
    "6. Variable names in `set` start with a letter or `_`."]

/-- The keyword reference. -/
def text : String := joinLines (intro ++ Keyword.all.map row ++ outro) ++ "\n"

/-- The keywords with their argument counts, and the operators. -/
def keywordList : String :=
  joinLines (["Keywords:"] ++
    Keyword.all.map (fun k => "  " ++ k.name ++ " (" ++ k.arity.render ++ " args)") ++
    ["Operators: " ++ " ".intercalate operators])

/-- A guide for writing a script that validates cleanly. -/
def writingGuide : String := joinLines
  ["Write a vnscript script as a sequence of parenthesized forms.",
    "",
    "1. Declare every scene with `(label name)` before jumping to it.",
    "2. Add exactly one `(start name)` pointing at the first scene.",
    "3. Quote every dialogue line: `(dialogue \"Hello.\" speaker Ann)`.",
    "4. Move between scenes with `(jump name)` or finish with `(jump end)`.",
    "5. Use `(set variable value)` inside `after` for state changes:",
    "   `(after (set met_ann 1))`.",
    "",
    "Example:",
    "",
    "```",
    "(start intro)",
    "(label intro)",
    "(bg park)",
    "(char Ann happy left)",
    "(dialogue \"Nice weather today.\" speaker Ann)",
    "(choice agree disagree)",
    "(jump ending)",
    "(label ending)",
    "(say Goodbye)",
    "(jump end)",
    "```",
    "",
    "Run `validate_script(script)` and fix every error before finishing.",
    ""]

end Reference

end StoryScript
