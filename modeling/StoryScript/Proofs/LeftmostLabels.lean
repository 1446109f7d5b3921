import Mathlib.Data.List.Pairwise
import Mathlib.Data.Set.Basic
import StoryScript.Proofs.Declarations

/-!
# Which label declarations are listed

The name of a label may have openers in it, so a declaration can hide others that begin inside
it. The search lists the leftmost ones: of all declarations that stand in a text it chooses some
that do not begin inside each other, and every other one begins inside a chosen one further to
the left. There is only one such choice. Whether a declaration belongs to it depends on what is
chosen to its left, so two choices agree by induction over the places where declarations begin.
-/

namespace StoryScript

/-- A choice among occurrences from left to right: none of the chosen ones begins in the extent
of another, and what is not chosen begins inside a chosen one that begins earlier. -/
structure LeftmostAmong {α : Type} (candidates chosen : Set (Occurrence α)) : Prop where
  among : ∀ o ∈ chosen, o ∈ candidates
  apart : ∀ o ∈ chosen, ∀ q ∈ chosen, q ≠ o → ¬ (o.start ≤ q.start ∧ q.start < o.stop)
  covered : ∀ q ∈ candidates, q ∉ chosen → ∃ o ∈ chosen, o.start < q.start ∧ q.start < o.stop

/-- One of two occurrences begins earlier and stops before the other one begins. -/
def Occurrence.Apart {α : Type} (o q : Occurrence α) : Prop :=
  (o.start < q.start ∧ o.stop ≤ q.start) ∨ (q.start < o.start ∧ q.stop ≤ o.start)

instance {α : Type} : Std.Symm (Occurrence.Apart (α := α)) := ⟨fun _ _ => Or.symm⟩

namespace LeftmostAmong

variable {α : Type} {candidates chosen other : Set (Occurrence α)}

/-- What one choice takes is taken by another one that takes nothing different further left. -/
theorem mem_of_agree
    (first : LeftmostAmong candidates chosen) (second : LeftmostAmong candidates other)
    {q : Occurrence α} (agree : ∀ o ∈ other, o.start < q.start → o ∈ chosen)
    (taken : q ∈ chosen) : q ∈ other := by
  by_contra skipped
  obtain ⟨o, takenByOther, before, inside⟩ := second.covered q (first.among q taken) skipped
  have different : q ≠ o := by
    rintro rfl
    exact Nat.lt_irrefl _ before
  exact first.apart o (agree o takenByOther before) q taken different ⟨before.le, inside⟩

theorem mem_iff_mem
    (first : LeftmostAmong candidates chosen) (second : LeftmostAmong candidates other)
    (q : Occurrence α) : q ∈ chosen ↔ q ∈ other := by
  -- Both directions need that the choices agree to the left of `q`, so they go together.
  induction place : q.start using Nat.strongRecOn generalizing q with
  | ind place inductionHypothesis =>
      subst place
      constructor
      · apply first.mem_of_agree second
        intro o taken before
        exact (inductionHypothesis o.start before o rfl).mpr taken
      · apply second.mem_of_agree first
        intro o taken before
        exact (inductionHypothesis o.start before o rfl).mp taken

end LeftmostAmong

namespace Recognizer

section General

variable {α : Type} (r : Recognizer α)

/-- What a recognizer sees in a text, wherever it stands and whether it is listed or not. -/
def SeesIn (text : List Char) (o : Occurrence α) : Prop :=
  o.start < text.length ∧ r (text.drop o.start) = some (o.length, o.value)

variable {r} in
/-- At one place only one thing is seen. -/
theorem SeesIn.eq_of_start {text : List Char} {o q : Occurrence α}
    (seen : r.SeesIn text o) (seen' : r.SeesIn text q) (same : o.start = q.start) : o = q := by
  have results := seen.2
  rw [same, seen'.2] at results
  cases o
  cases q
  simp_all

theorem occurrences_apart
    {text : List Char} {o q : Occurrence α} (listed : o ∈ r.occurrences text)
    (listed' : q ∈ r.occurrences text) (different : o ≠ q) : o.Apart q := by
  have apart : (r.occurrences text).Pairwise Occurrence.Apart :=
    (r.found_apart 0 0 text).imp .inl
  exact apart.forall listed listed' different

/-- The search lists the leftmost choice among all that a recognizer sees. -/
theorem leftmostAmong_occurrences (text : List Char) :
    LeftmostAmong {o | r.SeesIn text o} {o | o ∈ r.occurrences text} where
  among o listed := r.recognized_of_mem_occurrences listed
  apart := by
    intro o listed q listed' different ⟨notBefore, inside⟩
    rcases r.occurrences_apart listed listed' different.symm with ⟨_, stopped⟩ | ⟨before, _⟩
    · exact absurd inside (Nat.not_lt.mpr stopped)
    · exact absurd notBefore (Nat.not_le.mpr before)
  covered := by
    intro q seen unlisted
    obtain ⟨inside, recognized⟩ := seen
    obtain ⟨o, listed, sameStart | around⟩ :=
      r.exists_occurrence_around inside (by rw [recognized]; rfl)
    · have sameOccurrence : o = q :=
        SeesIn.eq_of_start (r.recognized_of_mem_occurrences listed) ⟨inside, recognized⟩ sameStart
      exact absurd (sameOccurrence ▸ listed) unlisted
    · exact ⟨o, listed, around⟩

end General

end Recognizer

/-! ### Label declarations -/

/-- A label is declared in a text: an opener and the word, at least one blank, and a name, which
goes on until a blank or a closer comes or the text ends. The declaration reaches up to the end
of the name. -/
def Occurrence.DeclaresIn (text : List Char) (o : Occurrence String) : Prop :=
  ∃ blanks rest,
    text.drop o.start = "(label".toList ++ (blanks ++ (o.value.toList ++ rest)) ∧
    blanks ≠ [] ∧ (∀ c ∈ blanks, isBlank c = true) ∧
    o.value.toList ≠ [] ∧ (∀ c ∈ o.value.toList, isBlank c = false ∧ c ≠ ')') ∧
    (∀ c ∈ rest.head?, isBlank c = true ∨ c = ')') ∧
    o.length = "(label".toList.length + blanks.length + o.value.toList.length

theorem Recognizer.label_seesIn_iff (text : List Char) (o : Occurrence String) :
    label.SeesIn text o ↔ o.DeclaresIn text := by
  constructor
  · exact fun seen => label_eq_some_iff.mp seen.2
  · intro declares
    refine ⟨?_, label_eq_some_iff.mpr declares⟩
    obtain ⟨_, _, split, _⟩ := declares
    apply Nat.lt_of_not_le
    intro outside
    rw [List.drop_of_length_le outside] at split
    cases split

/-- A name with no opener in it has no closer in it either. -/
theorem Occurrence.DeclaresIn.plain {text : List Char} {o : Occurrence String}
    (declares : o.DeclaresIn text) (openerFree : '(' ∉ o.value.toList) : Plain o.value.toList := by
  obtain ⟨_, _, _, _, _, _, solid, _⟩ := declares
  intro c member
  refine ⟨?_, (solid c member).2⟩
  rintro rfl
  exact openerFree member

/-- No other label is hidden in one whose name has no parentheses. -/
theorem label_openerFree
    {text : List Char} {o : Occurrence String} (listed : o ∈ Recognizer.label.occurrences text)
    (plain : Plain o.value.toList) : '(' ∉ (text.drop (o.start + 1)).take (o.length - 1) := by
  obtain ⟨blanks, rest, split, _, allBlanks, _, _, _, width⟩ :=
    Recognizer.label_eq_some_iff.mp (Recognizer.label.recognized_of_mem_occurrences listed).2
  have behind : (text.drop o.start).tail =
      ("label".toList ++ (blanks ++ o.value.toList)) ++ rest := by
    rw [split]
    simp
  have length : o.length - 1 = ("label".toList ++ (blanks ++ o.value.toList)).length := by
    rw [width, List.length_append, List.length_append]
    simp
    omega
  rw [← List.drop_drop, List.drop_one, behind, length, List.take_left]
  intro member
  rcases List.mem_append.mp member with inWord | member
  · exact absurd inWord (by decide)
  rcases List.mem_append.mp member with inBlanks | inName
  · exact absurd (allBlanks _ inBlanks) (by decide)
  · exact plain.not_mem_opener inName

theorem mem_labels_of_recognized
    {text : List Char}
    (plainNames : ∀ o ∈ Recognizer.label.occurrences text, Plain o.value.toList)
    {place : Nat} {length : Nat} {name : String}
    (recognized : Recognizer.label (text.drop place) = some (length, name)) :
    (place, name) ∈ (Recognizer.label.occurrences text).map fun o => (o.start, o.value) := by
  have opens : (text.drop place).head? = some '(' := by
    obtain ⟨_, _, split, _⟩ := Recognizer.label_eq_some_iff.mp recognized
    rw [split]
    rfl
  obtain ⟨o, listed, rfl⟩ := Recognizer.label.exists_occurrence_at
    (fun o listed => label_openerFree listed (plainNames o listed)) opens
    (by rw [recognized]; rfl)
  have same := (Recognizer.label.recognized_of_mem_occurrences listed).2
  rw [recognized] at same
  obtain ⟨_, rfl⟩ := Prod.mk.inj (Option.some.inj same)
  exact List.mem_map.mpr ⟨o, listed, rfl⟩

/-- Where no name has an opener in it, no declaration is hidden. -/
theorem mem_labels_of_openerFree
    {text : List Char}
    (openerFree : ∀ o : Occurrence String, o.DeclaresIn text → '(' ∉ o.value.toList)
    {o : Occurrence String} (declares : o.DeclaresIn text) :
    o ∈ Recognizer.label.occurrences text := by
  have plainNames : ∀ q ∈ Recognizer.label.occurrences text, Plain q.value.toList := by
    intro q listed
    have declared := (Recognizer.label_seesIn_iff text q).mp
      (Recognizer.label.recognized_of_mem_occurrences listed)
    exact declared.plain (openerFree q declared)
  have seen := (Recognizer.label_seesIn_iff text o).mpr declares
  obtain ⟨q, listed, same⟩ := List.mem_map.mp (mem_labels_of_recognized plainNames seen.2)
  have sameOccurrence : q = o := Recognizer.SeesIn.eq_of_start
    (Recognizer.label.recognized_of_mem_occurrences listed) seen (Prod.mk.inj same).1
  exact sameOccurrence ▸ listed

/-- The search for labels lists, from left to right, the names of the leftmost choice among all
declarations in a text, and there is no other choice of this kind. If no name has an opener in
it, every declaration is listed. -/
theorem declaredLabels_leftmost (text : List Char) :
    let listed := Recognizer.label.occurrences text
    declaredLabels text = listed.map (·.value) ∧
    listed.Pairwise (fun o q => o.start < q.start) ∧
    (∀ chosen, LeftmostAmong {o | Occurrence.DeclaresIn text o} chosen ↔
      chosen = {o | o ∈ listed}) ∧
    ((∀ o : Occurrence String, o.DeclaresIn text → '(' ∉ o.value.toList) →
      ∀ o : Occurrence String, o.DeclaresIn text → o ∈ listed) := by
  intro listed
  have leftmost : LeftmostAmong {o | Occurrence.DeclaresIn text o} {o | o ∈ listed} := by
    simp only [← Recognizer.label_seesIn_iff]
    exact Recognizer.label.leftmostAmong_occurrences text
  refine ⟨rfl, Recognizer.label.found_pairwise 0 0 text, ?_, ?_⟩
  · intro chosen
    constructor
    · intro isLeftmost
      exact Set.ext (isLeftmost.mem_iff_mem leftmost)
    · rintro rfl
      exact leftmost
  · intro openerFree o declares
    exact mem_labels_of_openerFree openerFree declares

/-- A declaration that is never closed is listed like one that is, and blanks in front of the
word make it none. -/
theorem declaredLabels_leftmost_unclosed :
    let text := "(label a)( label b)(label c".toList
    (∀ o : Occurrence String, o.DeclaresIn text → '(' ∉ o.value.toList) ∧
    (⟨19, 8, "c"⟩ : Occurrence String).DeclaresIn text ∧
    (⟨19, 8, "c"⟩ : Occurrence String) ∈ Recognizer.label.occurrences text ∧
    declaredLabels text = ["a", "c"] := by
  intro text
  have openerFree : ∀ o : Occurrence String, o.DeclaresIn text → '(' ∉ o.value.toList := by
    intro o declares
    have names : ∀ place < text.length, ∀ found ∈ Recognizer.label (text.drop place),
        '(' ∉ found.2.toList := by decide +kernel
    obtain ⟨inside, recognized⟩ := (Recognizer.label_seesIn_iff text o).mpr declares
    exact names o.start inside _ recognized
  have declares : (⟨19, 8, "c"⟩ : Occurrence String).DeclaresIn text := by
    have name : "c".toList = ['c'] := by decide
    refine ⟨[' '], [], by decide +kernel, List.cons_ne_nil _ _, ?_, ?_, ?_, by simp, rfl⟩
    · exact List.forall_mem_singleton.mpr (by decide)
    · exact name ▸ List.cons_ne_nil _ _
    · exact name ▸ List.forall_mem_singleton.mpr (by decide)
  obtain ⟨_, _, _, all⟩ := declaredLabels_leftmost text
  exact ⟨openerFree, declares, all openerFree _ declares, by decide +kernel⟩

/-- A name that runs into the next declaration hides it. -/
example : declaredLabels "(label a(label b)".toList = ["a(label"] := by decide +kernel

end StoryScript
