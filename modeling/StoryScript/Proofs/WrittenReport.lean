import StoryScript.Proofs.JsonRoundTrip
import StoryScript.Summary

/-!
# Reports as JSON text

A report written as JSON loses nothing: whoever parses the text and decodes each element as a
diagnostic has the diagnostics of the report again.
-/

namespace StoryScript

/-! ### Diagnostics are decoded from what they are written as -/

namespace Decoded

variable {α β : Type}

@[simp] theorem under_ok (step : PathStep) (a : α) : under step (.ok a) = .ok a := rfl

@[simp] theorem both_ok (a : α) (b : β) : both (.ok a) (.ok b) = .ok (a, b) := rfl

@[simp] theorem map_ok (f : α → β) (a : α) : map f (.ok a) = .ok (f a) := rfl

end Decoded

@[simp] theorem Position.ofJson_toJson (p : Position) : ofJson p.toJson = .ok p := by
  simp [toJson, ofJson, Json.required, Json.member?, List.lookup_cons, Json.toInteger]

@[simp] theorem Span.ofJson_toJson (s : Span) : ofJson s.toJson = .ok s := by
  simp [toJson, ofJson, Json.required, Json.member?, List.lookup_cons]

@[simp] theorem Severity.ofJson_toJson (s : Severity) : ofJson s.toJson = .ok s := by
  simp [toJson, ofJson, Json.toInteger]

namespace Diagnostic

@[simp] theorem ofJson_toJson (d : Diagnostic) : ofJson d.toJson = .ok d := by
  simp [toJson, ofJson, Json.required, Json.optional, Json.member?, List.lookup_cons, Json.toText]

theorem listOfJson_map_toJson (diagnostics : List Diagnostic) :
    listOfJson (diagnostics.map toJson) = .ok diagnostics := by
  induction diagnostics with
  | nil => rfl
  | cons d diagnostics inductionHypothesis =>
      rw [List.map_cons, listOfJson, ofJson_toJson]
      simp only [inductionHypothesis, Decoded.map_ok]

end Diagnostic

/-! ### Reports -/

namespace Report

theorem toJsonText_ascii (r : Report) : ∀ c ∈ r.toJsonText.toList, c = '\n' ∨ PrintableAscii c := by
  intro c member
  rw [toJsonText, Json.print, String.toList_ofList] at member
  exact Json.allowed_render Json.Layout.indented_within _ 0 c member

theorem parse?_toJsonText (r : Report) :
    Json.parse? r.toJsonText = some (.array (r.diagnostics.map (·.toJson))) :=
  Json.parse?_print Json.Layout.indented_spaced _

/-- The text determines the report, since the report can be read back from it. -/
theorem toJsonText_injective : Function.Injective toJsonText := by
  intro r s same
  have parsed := parse?_toJsonText r
  rw [same, parse?_toJsonText s] at parsed
  have dumps := Json.array.inj (Option.some.inj parsed)
  have decoded := Diagnostic.listOfJson_map_toJson s.diagnostics
  rw [dumps, Diagnostic.listOfJson_map_toJson] at decoded
  cases r
  cases s
  exact congrArg mk (Except.ok.inj decoded)

/-- The text of a report has only line feeds and printable ASCII, the diagnostics are read back
from it in order, and different reports have different texts. -/
theorem toJsonText_lossless :
    (∀ r : Report,
      (∀ c ∈ r.toJsonText.toList, c = '\n' ∨ PrintableAscii c) ∧
        ∃ items, Json.parse? r.toJsonText = some (.array items) ∧
          Diagnostic.listOfJson items = .ok r.diagnostics) ∧
      Function.Injective toJsonText := by
  refine ⟨fun r => ⟨toJsonText_ascii r, ?_⟩, toJsonText_injective⟩
  exact ⟨_, parse?_toJsonText r, Diagnostic.listOfJson_map_toJson r.diagnostics⟩

end Report

end StoryScript
