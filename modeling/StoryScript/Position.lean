import Std.Data.TreeSet

/-!
# Positions and spans

Places in a script are zero-based line and character numbers, ordered by line first.
They are integers rather than naturals because positions also arrive from outside,
where nothing keeps them from being negative.
-/

namespace StoryScript

structure Position where
  line : Int
  character : Int
  deriving DecidableEq, Repr, Inhabited

namespace Position

instance : Ord Position := ⟨compareLex (compareOn line) (compareOn character)⟩

instance : Std.TransOrd Position :=
  inferInstanceAs (Std.TransCmp (compareLex (compareOn line) (compareOn character)))

instance : Std.LawfulEqOrd Position where
  eq_of_compare {a b} h := by
    obtain ⟨sameLine, sameCharacter⟩ := Ordering.then_eq_eq.mp h
    cases a
    cases b
    simp_all [compareOn]

end Position

/-- Where something starts and where it stops; the stop is not part of it. -/
structure Span where
  start : Position
  stop : Position
  deriving DecidableEq, Repr, Inhabited

end StoryScript
