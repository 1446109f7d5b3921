import StoryScript.Diagnostic
import StoryScript.Json.Decoded

/-!
# Diagnostics as data

How positions, spans, diagnostics and reports are written as JSON values and decoded
from them. Unknown members are ignored. A diagnostic without a source gets the default
one, and a report without a list has no diagnostics.
-/

namespace StoryScript

namespace Position

def toJson (p : Position) : Json :=
  .object [("line", .int p.line), ("character", .int p.character)]

def ofJson : Json → Decoded Position
  | .object members =>
    ((Json.required members "line" Json.toInteger).both
      (Json.required members "character" Json.toInteger)).map
        fun (line, character) => ⟨line, character⟩
  | _ => Decoded.fail .notObject

end Position

namespace Span

def toJson (s : Span) : Json := .object [("start", s.start.toJson), ("end", s.stop.toJson)]

def ofJson : Json → Decoded Span
  | .object members =>
    ((Json.required members "start" Position.ofJson).both
      (Json.required members "end" Position.ofJson)).map fun (start, stop) => ⟨start, stop⟩
  | _ => Decoded.fail .notObject

end Span

namespace Severity

def toJson (s : Severity) : Json := .int s.code

/-- Whatever is read as the integer 1 or 2. Integers beyond the signed 64-bit range are told
apart from other numbers that are no severity. -/
def ofJson (value : Json) : Decoded Severity :=
  match value.toInteger with
  | .ok n =>
    match ofCode? n with
    | some s => .ok s
    | none =>
      Decoded.fail (if -Int.pow 2 63 ≤ n ∧ n < Int.pow 2 63 then .notSeverity else .outOfRange)
  | .error _ => Decoded.fail .notSeverity

end Severity

namespace Diagnostic

def toJson (d : Diagnostic) : Json :=
  .object [("severity", d.severity.toJson), ("range", d.span.toJson),
    ("message", .string d.message), ("source", .string d.source)]

def ofJson : Json → Decoded Diagnostic
  | .object members =>
    ((Json.required members "severity" Severity.ofJson).both
      ((Json.required members "range" Span.ofJson).both
        ((Json.required members "message" Json.toText).both
          (Json.optional members "source" defaultSource Json.toText)))).map
            fun (severity, span, message, source) => ⟨severity, span, message, source⟩
  | _ => Decoded.fail .notObject

/-- Decodes a list given by a caller; the faults are those of its first bad element. -/
def listOfJson : List Json → Decoded (List Diagnostic)
  | [] => .ok []
  | item :: items =>
    match ofJson item with
    | .error faults => .error faults
    | .ok d => (listOfJson items).map (d :: ·)

end Diagnostic

namespace Report

def toJson (r : Report) : Json := .object [("diagnostics", .array (r.diagnostics.map (·.toJson)))]

def ofJson : Json → Decoded Report
  | .object members =>
    (Json.optional members "diagnostics" [] (Json.toList Diagnostic.ofJson)).map
      fun diagnostics => ⟨diagnostics⟩
  | _ => Decoded.fail .notObject

end Report

end StoryScript
