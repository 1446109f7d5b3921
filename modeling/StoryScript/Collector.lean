import StoryScript.Document
import StoryScript.Finding

/-!
# Collectors

A collector turns findings at character offsets into diagnostics of a document and
keeps them in order. It refuses an issue that it already holds, so the first one
wins. The keys of what it holds are kept in a search tree beside the list.
-/

namespace StoryScript

structure Collector where
  document : Document
  source : String
  diagnostics : Array Diagnostic
  seen : Std.TreeSet Diagnostic.Key

namespace Collector

/-- A collector that already holds the given diagnostics. -/
def ofList (document : Document) (initial : List Diagnostic := [])
    (source : String := Diagnostic.defaultSource) : Collector where
  document
  source
  diagnostics := initial.toArray
  seen := initial.foldl (fun seen d => seen.insert d.key) ∅

/-- The diagnostic for the characters from `start` up to `stop`. -/
def diagnose (c : Collector) (severity : Severity) (start stop : Int) (message : String) :
    Diagnostic :=
  ⟨severity, c.document.span start stop, message, c.source⟩

/-- Whether the issue that starts at an offset is already held. -/
def holds (c : Collector) (start : Int) (message : String) : Bool :=
  c.seen.contains ⟨c.document.positionAt start, message⟩

/-- What became of an addition. -/
inductive Outcome where
  | added
  | refused
  | unknownSeverity (code : Int)
  deriving DecidableEq, Repr

/-- Adds a diagnostic, with the number of its severity, unless the collector holds the issue
already. Callers are to hand over numbers of severities only. The number is looked at after the
issue counts as held, so another one stops the addition halfway: nothing is stored, but the key
stays. -/
def addCode (c : Collector) (code start stop : Int) (message : String) : Collector × Outcome :=
  if c.holds start message then (c, .refused)
  else
    let noted := { c with seen := c.seen.insert ⟨c.document.positionAt start, message⟩ }
    match Severity.ofCode? code with
    | none => (noted, .unknownSeverity code)
    | some severity =>
      let d := c.diagnose severity start stop message
      ({ noted with diagnostics := c.diagnostics.push d }, .added)

/-- Adds a diagnostic unless the collector holds the issue already. -/
def add (c : Collector) (severity : Severity) (start stop : Int) (message : String) : Collector :=
  (c.addCode severity.code start stop message).1

/-- Adds a finding. -/
def report (c : Collector) (start stop : Int) (f : Finding) : Collector :=
  c.add f.severity start stop f.message

/-- An addition that a caller asks for, who has the severity as a number. -/
structure Request where
  code : Int
  start : Int
  stop : Int
  message : String
  deriving DecidableEq, Repr

/-- Carries out a request. What is added has a severity, so one is made of the number first, and
that fails unless the number is one of a severity. The collector hears nothing of it then. -/
def handle (c : Collector) (r : Request) : Collector × Outcome :=
  match Severity.ofCode? r.code with
  | none => (c, .unknownSeverity r.code)
  | some severity => c.addCode severity.code r.start r.stop r.message

def size (c : Collector) : Nat := c.diagnostics.size

/-- What has been collected after the first `count` diagnostics. -/
def since (c : Collector) (count : Nat) : List Diagnostic := c.diagnostics.toList.drop count

/-- Everything that an addition with a severity can do. -/
theorem addCode_code (c : Collector) (severity : Severity) (start stop : Int) (message : String) :
    c.addCode severity.code start stop message =
      if c.holds start message then (c, .refused)
      else
        let d := c.diagnose severity start stop message
        ({ c with diagnostics := c.diagnostics.push d, seen := c.seen.insert d.key }, .added) := by
  rw [addCode, Severity.ofCode?_code]
  rfl

theorem add_eq (c : Collector) (severity : Severity) (start stop : Int) (message : String) :
    c.add severity start stop message =
      if c.holds start message then c
      else
        let d := c.diagnose severity start stop message
        { c with diagnostics := c.diagnostics.push d, seen := c.seen.insert d.key } := by
  rw [add, addCode_code]
  split <;> rfl

@[simp] theorem document_add (c : Collector) (severity : Severity) (start stop : Int)
    (message : String) : (c.add severity start stop message).document = c.document := by
  rw [add_eq]
  split <;> rfl

@[simp] theorem source_add (c : Collector) (severity : Severity) (start stop : Int)
    (message : String) : (c.add severity start stop message).source = c.source := by
  rw [add_eq]
  split <;> rfl

theorem toList_add (c : Collector) (severity : Severity) (start stop : Int) (message : String) :
    (c.add severity start stop message).diagnostics.toList =
      if c.holds start message then c.diagnostics.toList
      else c.diagnostics.toList ++ [c.diagnose severity start stop message] := by
  rw [add_eq]
  split <;> simp

/-- The search tree holds the keys of the list and no others. -/
def Keyed (c : Collector) : Prop :=
  ∀ k, c.seen.contains k = true ↔ k ∈ c.diagnostics.toList.map (·.key)

theorem contains_insert_iff (seen : Std.TreeSet Diagnostic.Key) (j k : Diagnostic.Key) :
    (seen.insert j).contains k = true ↔ k = j ∨ seen.contains k = true := by
  rw [Std.TreeSet.contains_insert, Bool.or_eq_true, beq_iff_eq, Std.compare_eq_iff_eq,
    eq_comm (a := j)]

theorem contains_foldl_iff (initial : List Diagnostic) (seen : Std.TreeSet Diagnostic.Key)
    (k : Diagnostic.Key) :
    (initial.foldl (fun seen d => seen.insert d.key) seen).contains k = true ↔
      k ∈ initial.map (·.key) ∨ seen.contains k = true := by
  induction initial generalizing seen with
  | nil => simp
  | cons d rest inductionHypothesis =>
    rw [List.foldl_cons, inductionHypothesis, contains_insert_iff, List.map_cons, List.mem_cons]
    constructor
    · rintro (later | rfl | before)
      · exact .inl (.inr later)
      · exact .inl (.inl rfl)
      · exact .inr before
    · rintro ((rfl | later) | before)
      · exact .inr (.inl rfl)
      · exact .inl later
      · exact .inr (.inr before)

theorem keyed_ofList (document : Document) (initial : List Diagnostic) (source : String) :
    (ofList document initial source).Keyed := by
  intro k
  exact (contains_foldl_iff initial ∅ k).trans (by simp [ofList])

theorem Keyed.add {c : Collector} (keyed : c.Keyed) (severity : Severity) (start stop : Int)
    (message : String) : (c.add severity start stop message).Keyed := by
  intro k
  rw [add_eq]
  split
  · exact keyed k
  · refine (contains_insert_iff _ _ k).trans ?_
    rw [keyed k, Array.toList_push, List.map_append, List.mem_append, List.map_singleton,
      List.mem_singleton, or_comm]

end Collector

end StoryScript
