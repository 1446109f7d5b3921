import StoryScript.Document

/-!
# Positions of offsets

A position keeps everything that is known of an offset once it has been moved into the
document, so different offsets of a text have different positions.
-/

namespace StoryScript

namespace Document

theorem positionAt_eq_iff (doc : Document) (first second : Int) :
    doc.positionAt first = doc.positionAt second ↔ doc.clamp first = doc.clamp second := by
  constructor
  · intro same
    simp only [positionAt, Position.mk.injEq] at same
    obtain ⟨sameLine, sameCharacter⟩ := same
    have sameLine : lastStart doc.lineStarts (doc.clamp first) 0 doc.lineStarts.size =
        lastStart doc.lineStarts (doc.clamp second) 0 doc.lineStarts.size := by omega
    rw [sameLine] at sameCharacter
    omega
  · intro same
    simp only [positionAt, same]

theorem clamp_ofText {text : List Char} {offset : Nat} (inside : offset ≤ text.length)
    (uri : String) : (ofText text uri).clamp offset = offset := by
  simp [clamp, ofText, inside]

/-- Different offsets of a text have different positions. -/
theorem positionAt_ofText_inj
    {text : List Char} {uri : String} {first second : Nat}
    (firstInside : first ≤ text.length) (secondInside : second ≤ text.length) :
    (ofText text uri).positionAt first = (ofText text uri).positionAt second ↔
      first = second := by
  rw [positionAt_eq_iff, clamp_ofText firstInside, clamp_ofText secondInside]

end Document

end StoryScript
