import StoryScript.Json.Printer
import StoryScript.Schema

/-!
# Written reports

A report is given to the caller either as text, one entry per diagnostic between a header
and the totals, or as an indented JSON array of its diagnostics.
-/

namespace StoryScript

namespace Diagnostic

/-- The entry of a diagnostic in a text report; lines and columns count from 1. -/
def entry (d : Diagnostic) : String :=
  "  [" ++ d.severity.label ++ "] " ++ (d.span.start.line + 1).repr ++ ":" ++
    (d.span.start.character + 1).repr ++ " " ++ d.message

end Diagnostic

namespace Report

def validHeader : String := "Script is valid."

def header (r : Report) : String :=
  if r.valid then validHeader else "Script has validation errors:"

def totals (r : Report) : String :=
  r.errors.length.repr ++ " error(s), " ++ r.warnings.length.repr ++ " warning(s)"

/-- The report as text; one without diagnostics is only a header. -/
def toText (r : Report) : String :=
  if r.diagnostics.isEmpty then validHeader
  else "\n".intercalate (r.header :: (r.diagnostics.map (·.entry) ++ [r.totals]))

/-- The diagnostics as an indented JSON array. -/
def toJsonText (r : Report) : String :=
  Json.print .indented (.array (r.diagnostics.map (·.toJson)))

end Report

end StoryScript
