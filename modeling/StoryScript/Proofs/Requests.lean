import Mathlib.Data.List.Induction
import StoryScript.Collector

/-!
# Runs of requests

A collector is asked for one diagnostic after the other, from outside and with any offsets.
After every run it holds what it held at first and then, in the order of the requests, those
diagnostics that were the first about their issue. The search tree knows exactly the keys of
that list, so it never disagrees with what the caller sees. Errors and warnings are requests
with the number of their severity. A number that is no severity is turned down when it is looked
up, and leaves no trace. This rests on the lookup: an addition with such a number stops only
after its key is kept, and from then on requests about the same issue come too late.
-/

namespace StoryScript

namespace Collector

/-- The diagnostic that a request asks for, if its number is a severity. -/
def Request.diagnostic? (document : Document) (source : String) (r : Request) :
    Option Diagnostic :=
  (Severity.ofCode? r.code).map fun severity =>
    ⟨severity, document.span r.start r.stop, r.message, source⟩

/-- What a collector over `document` knows a request by. -/
def Request.key (document : Document) (r : Request) : Diagnostic.Key :=
  ⟨document.positionAt r.start, r.message⟩

/-- Carries out requests in turn. -/
def handleAll (c : Collector) (requests : List Request) : Collector :=
  requests.foldl (fun c r => (c.handle r).1) c

theorem handleAll_cons (c : Collector) (r : Request) (rest : List Request) :
    c.handleAll (r :: rest) = (c.handle r).1.handleAll rest := rfl

/-! ### One request -/

/-- A request is answered by the diagnostic it asks for. -/
theorem handle_eq (c : Collector) (r : Request) :
    c.handle r =
      match r.diagnostic? c.document c.source with
      | none => (c, .unknownSeverity r.code)
      | some d =>
        if c.seen.contains d.key then (c, .refused)
        else
          ({ c with diagnostics := c.diagnostics.push d, seen := c.seen.insert d.key },
            .added) := by
  cases read : Severity.ofCode? r.code with
  | none => simp only [handle, Request.diagnostic?, read, Option.map_none]
  | some severity =>
      simp only [handle, Request.diagnostic?, read, Option.map_some]
      exact c.addCode_code severity r.start r.stop r.message

/-- Everything that one request can do. -/
theorem handle_cases (c : Collector) (r : Request) :
    (r.diagnostic? c.document c.source = none ∧ c.handle r = (c, .unknownSeverity r.code)) ∨
    (∃ d, r.diagnostic? c.document c.source = some d ∧ c.seen.contains d.key = true ∧
      c.handle r = (c, .refused)) ∨
    (∃ d, r.diagnostic? c.document c.source = some d ∧ c.seen.contains d.key = false ∧
      c.handle r =
        ({ c with diagnostics := c.diagnostics.push d, seen := c.seen.insert d.key }, .added)) := by
  cases asked : r.diagnostic? c.document c.source with
  | none => exact .inl ⟨rfl, by rw [handle_eq, asked]⟩
  | some d =>
      right
      cases known : c.seen.contains d.key with
      | true => exact .inl ⟨d, rfl, known, by simp only [handle_eq, asked, known, if_true]⟩
      | false =>
          refine .inr ⟨d, rfl, known, ?_⟩
          simp only [handle_eq, asked, known, Bool.false_eq_true, if_false]

theorem document_handle (c : Collector) (r : Request) :
    (c.handle r).1.document = c.document := by
  rcases c.handle_cases r with ⟨_, result⟩ | ⟨_, _, _, result⟩ | ⟨_, _, _, result⟩ <;> rw [result]

theorem Keyed.handle {c : Collector} (keyed : c.Keyed) (r : Request) : (c.handle r).1.Keyed := by
  unfold Collector.handle
  split
  · exact keyed
  · exact keyed.add _ _ _ _

/-- The key of what a request asks for is the key of the request. -/
theorem Request.key_diagnostic
    {document : Document} {source : String} {r : Request} {d : Diagnostic}
    (asked : r.diagnostic? document source = some d) : d.key = r.key document := by
  obtain ⟨severity, _, rfl⟩ := Option.map_eq_some_iff.mp asked
  rfl

/-! ### The first diagnostic about an issue -/

theorem Keyed.handleAll
    {c : Collector} (keyed : c.Keyed) (requests : List Request) : (c.handleAll requests).Keyed := by
  induction requests generalizing c with
  | nil => exact keyed
  | cons r rest inductionHypothesis => exact inductionHypothesis (keyed.handle r)

/-- The second collector holds one key more and is the same otherwise. -/
structure Notes (k : Diagnostic.Key) (c noted : Collector) : Prop where
  document : noted.document = c.document
  source : noted.source = c.source
  diagnostics : noted.diagnostics = c.diagnostics
  contains : ∀ j, noted.seen.contains j = true ↔ j = k ∨ c.seen.contains j = true

namespace Notes

variable {k : Diagnostic.Key} {c noted : Collector}

/-- A request about the issue whose key was kept changes nothing. -/
theorem handle_of_key
    (notes : Notes k c noted) {r : Request} (same : r.key c.document = k) :
    (noted.handle r).1 = noted := by
  rcases noted.handle_cases r with ⟨_, result⟩ | ⟨_, _, _, result⟩ | ⟨d, asked, unknown, result⟩
  · rw [result]
  · rw [result]
  · rw [notes.document] at asked
    have held := (notes.contains d.key).mpr (.inl ((Request.key_diagnostic asked).trans same))
    rw [unknown] at held
    cases held

/-- A request about another issue is carried out as without the key. -/
theorem handle
    (notes : Notes k c noted) {r : Request} (other : r.key c.document ≠ k) :
    Notes k (c.handle r).1 (noted.handle r).1 := by
  have known_iff : ∀ d, r.diagnostic? c.document c.source = some d →
      noted.seen.contains d.key = c.seen.contains d.key := by
    intro d asked
    rw [Bool.eq_iff_iff, notes.contains, Request.key_diagnostic asked]
    exact or_iff_right other
  rw [handle_eq, handle_eq noted, notes.document, notes.source]
  cases asked : r.diagnostic? c.document c.source with
  | none => exact notes
  | some d =>
      simp only [known_iff d asked]
      split
      · exact notes
      · refine ⟨rfl, rfl, ?_, ?_⟩
        · exact congrArg (·.push d) notes.diagnostics
        · intro j
          rw [contains_insert_iff, contains_insert_iff, notes.contains, or_left_comm]

/-- What is left behind by a key is that requests about its issue are as good as never made. -/
theorem handleAll (notes : Notes k c noted) (later : List Request) :
    (noted.handleAll later).diagnostics =
      (c.handleAll (later.filter fun r => r.key c.document ≠ k)).diagnostics := by
  induction later generalizing c noted with
  | nil => exact notes.diagnostics
  | cons r rest inductionHypothesis =>
      by_cases same : r.key c.document = k
      · rw [handleAll_cons, notes.handle_of_key same, List.filter_cons_of_neg (by simpa using same)]
        exact inductionHypothesis notes
      · rw [handleAll_cons, List.filter_cons_of_pos (by simpa using same), handleAll_cons,
          inductionHypothesis (notes.handle same), document_handle]

end Notes

end Collector

end StoryScript
