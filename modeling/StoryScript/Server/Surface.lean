/-!
# What the server offers

The tools, resources and prompts that a client can discover, each with its description.
-/

namespace StoryScript

structure Tool where
  name : String
  description : String
  params : List String
  deriving DecidableEq, Repr

structure Resource where
  uri : String
  name : String
  description : String
  deriving DecidableEq, Repr

structure Prompt where
  name : String
  description : String
  deriving DecidableEq, Repr

namespace Server

def tools : List Tool :=
  [⟨"get_keyword_reference",
      "Return the vnscript keyword reference.\n\n" ++
      "Call this before writing or fixing a script to see which keywords exist\n" ++
      "and how many arguments each one takes.", []⟩,
    ⟨"list_keywords",
      "List the keywords the validator recognizes, with their argument counts.", []⟩,
    ⟨"validate_script",
      "Validate a vnscript script and list its errors and warnings.\n\n" ++
      "Positions are reported as 1-based ``line:column``.\n\n" ++
      "Args:\n    script: Complete script text.", ["script"]⟩,
    ⟨"validate_script_json",
      "Validate a script and return diagnostics as a JSON array.\n\n" ++
      "Each entry has ``severity`` (1=error, 2=warning), a zero-based ``range``,\n" ++
      "``message`` and ``source``, matching the Language Server Protocol.\n\n" ++
      "Args:\n    script: Complete script text.", ["script"]⟩]

def resources : List Resource :=
  [⟨"vnscript://reference", "keyword_reference",
    "Keyword reference: forms, arity and semantic rules."⟩]

def prompts : List Prompt :=
  [⟨"write_script", "Guide for writing a vnscript script that validates cleanly."⟩]

end Server

end StoryScript
