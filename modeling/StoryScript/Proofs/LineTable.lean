import StoryScript.Proofs.Positions

/-!
# The line table and the order of positions

The offsets at which the lines of a text start begin with zero and increase, so bisection
finds the one line that an offset lies on. Positions are ordered by their line first; an
offset that is further to the right lies on a later line or further to the right on the same
one, which makes positions come in the order of their offsets.
-/

namespace StoryScript

namespace Position

instance : LT Position := ltOfOrd

instance : LE Position := leOfOrd

theorem compare_eq (p q : Position) :
    compare p q = (compare p.line q.line).then (compare p.character q.character) := rfl

/-- Positions are in lexicographic order. -/
theorem lt_iff (p q : Position) :
    p < q ↔ p.line < q.line ∨ p.line = q.line ∧ p.character < q.character := by
  change compare p q = .lt ↔ _
  rw [compare_eq, Ordering.then_eq_lt, Int.compare_eq_lt, Int.compare_eq_eq, Int.compare_eq_lt]

theorem le_iff_not_lt (p q : Position) : p ≤ q ↔ ¬ q < p := by
  change (compare p q).isLE = true ↔ ¬ compare q p = .lt
  rw [Ordering.isLE_iff_ne_gt, Std.OrientedCmp.gt_iff_lt]

end Position

/-! ### The starts of lines -/

theorem lineStartsFrom_cons (index : Nat) (c : Char) (rest : List Char) :
    (lineStartsFrom #[] index (c :: rest)).toList =
      (if endsLine c rest then [index + 1] else []) ++
        (lineStartsFrom #[] (index + 1) rest).toList := by
  rw [lineStartsFrom, toList_lineStartsFrom]
  split <;> rfl

theorem lt_of_mem_lineStartsFrom
    {index start : Nat} {text : List Char}
    (member : start ∈ (lineStartsFrom #[] index text).toList) : index < start := by
  induction text generalizing index with
  | nil => simp [lineStartsFrom] at member
  | cons c rest inductionHypothesis =>
      rw [lineStartsFrom_cons, List.mem_append] at member
      rcases member with here | later
      · split at here
        · rw [List.mem_singleton.mp here]
          exact Nat.lt_succ_self index
        · simp at here
      · exact Nat.lt_of_succ_lt (inductionHypothesis later)

theorem lineStartsFrom_pairwise (index : Nat) (text : List Char) :
    (lineStartsFrom #[] index text).toList.Pairwise (· < ·) := by
  induction text generalizing index with
  | nil => simp [lineStartsFrom]
  | cons c rest inductionHypothesis =>
      rw [lineStartsFrom_cons]
      apply List.pairwise_append.mpr
      refine ⟨by split <;> simp, inductionHypothesis _, ?_⟩
      intro first here second later
      split at here
      · rw [List.mem_singleton.mp here]
        exact lt_of_mem_lineStartsFrom later
      · simp at here

theorem toList_lineStarts (text : List Char) :
    (lineStarts text).toList = 0 :: (lineStartsFrom #[] 0 text).toList :=
  toList_lineStartsFrom #[0] 0 text

/-- The first line starts at zero, and every line starts after the one before. -/
theorem lineStarts_pairwise (text : List Char) :
    (lineStarts text).toList.Pairwise (· < ·) := by
  rw [toList_lineStarts]
  apply List.pairwise_cons.mpr
  exact ⟨fun start member => lt_of_mem_lineStartsFrom member, lineStartsFrom_pairwise 0 text⟩

/-- A table whose entries increase. -/
def Increasing (starts : Array Nat) : Prop :=
  ∀ first second, first < second → second < starts.size →
    starts.getD first 0 < starts.getD second 0

theorem lineStarts_increasing (text : List Char) : Increasing (lineStarts text) := by
  intro first second ordered inside
  have firstInside := Nat.lt_trans ordered inside
  have earlier := List.pairwise_iff_getElem.mp (lineStarts_pairwise text) first second
    (by simpa using firstInside) (by simpa using inside) ordered
  simpa [Array.getD, inside, firstInside] using earlier

theorem lineStarts_size_pos (text : List Char) : 0 < (lineStarts text).size := by
  rw [← Array.length_toList, toList_lineStarts]
  exact Nat.succ_pos _

theorem lineStarts_first_le (text : List Char) (offset : Nat) :
    (lineStarts text).getD 0 0 ≤ offset := by
  have first : (lineStarts text).getD 0 0 = 0 := by
    rw [Array.getD_eq_getD_getElem?, ← Array.getElem?_toList, toList_lineStarts]
    rfl
  rw [first]
  exact Nat.zero_le offset

/-- Bisection finds the last entry that is at most the offset: the entry at `low` always is,
and those from `high` on are not looked at. -/
theorem lastStart_spec
    {starts : Array Nat} {offset low high : Nat} (increasing : Increasing starts)
    (ordered : low < high) (inside : high ≤ starts.size) (reached : starts.getD low 0 ≤ offset) :
    lastStart starts offset low high < high ∧
    starts.getD (lastStart starts offset low high) 0 ≤ offset ∧
    ∀ line, lastStart starts offset low high < line → line < high →
      offset < starts.getD line 0 := by
  fun_induction lastStart starts offset low high with
  | case1 low high wide middle isReached inductionHypothesis =>
      exact inductionHypothesis (by omega) inside isReached
  | case2 low high wide middle notReached inductionHypothesis =>
      obtain ⟨below, found, last⟩ := inductionHypothesis (by omega) (by omega) reached
      refine ⟨by omega, found, ?_⟩
      intro line after before
      by_cases inLower : line < middle
      · exact last line after inLower
      · rcases Nat.eq_or_lt_of_not_lt inLower with same | beyond
        · rw [same]
          exact Nat.lt_of_not_le notReached
        · exact Nat.lt_trans (Nat.lt_of_not_le notReached)
            (increasing middle line beyond (by omega))
  | case3 low high narrow =>
      refine ⟨ordered, reached, ?_⟩
      intro line after before
      omega

/-! ### Positions in the order of their offsets -/

/-- The line on which an offset of a text lies. -/
def lineAt (text : List Char) (offset : Nat) : Nat :=
  lastStart (lineStarts text) offset 0 (lineStarts text).size

theorem lineAt_spec (text : List Char) (offset : Nat) :
    lineAt text offset < (lineStarts text).size ∧
    (lineStarts text).getD (lineAt text offset) 0 ≤ offset ∧
    ∀ line, lineAt text offset < line → line < (lineStarts text).size →
      offset < (lineStarts text).getD line 0 :=
  lastStart_spec (lineStarts_increasing text) (lineStarts_size_pos text) (Nat.le_refl _)
    (lineStarts_first_le text offset)

/-- Further to the right the line is the same or a later one. -/
theorem lineAt_le_lineAt (text : List Char) {first second : Nat} (ordered : first ≤ second) :
    lineAt text first ≤ lineAt text second := by
  obtain ⟨inside, reached, _⟩ := lineAt_spec text first
  obtain ⟨_, _, last⟩ := lineAt_spec text second
  apply Nat.le_of_not_lt
  intro earlier
  have beyond := last _ earlier inside
  omega

namespace Document

variable (text : List Char) (uri : String)

theorem positionAt_ofText (offset : Int) :
    (ofText text uri).positionAt offset =
      let place := (ofText text uri).clamp offset
      ⟨lineAt text place, place - (StoryScript.lineStarts text).getD (lineAt text place) 0⟩ := rfl

theorem positionAt_lt_of_clamp_lt
    {first second : Int} (before : (ofText text uri).clamp first < (ofText text uri).clamp second) :
    (ofText text uri).positionAt first < (ofText text uri).positionAt second := by
  rw [Position.lt_iff, positionAt_ofText, positionAt_ofText]
  generalize (ofText text uri).clamp first = left at *
  generalize (ofText text uri).clamp second = right at *
  rcases Nat.lt_or_eq_of_le (lineAt_le_lineAt text (Nat.le_of_lt before)) with later | same
  · exact .inl (Int.ofNat_lt.mpr later)
  · right
    dsimp only
    rw [same]
    exact ⟨rfl, by omega⟩

theorem positionAt_lt_iff (first second : Int) :
    (ofText text uri).positionAt first < (ofText text uri).positionAt second ↔
      (ofText text uri).clamp first < (ofText text uri).clamp second := by
  constructor
  · intro before
    apply Nat.lt_of_not_le
    intro notBefore
    rcases Nat.lt_or_eq_of_le notBefore with after | same
    · have reversed := positionAt_lt_of_clamp_lt text uri after
      rw [Position.lt_iff] at before reversed
      omega
    · rw [((ofText text uri).positionAt_eq_iff second first).mpr same, Position.lt_iff] at before
      omega
  · exact positionAt_lt_of_clamp_lt text uri

theorem positionAt_le_iff (first second : Int) :
    (ofText text uri).positionAt first ≤ (ofText text uri).positionAt second ↔
      (ofText text uri).clamp first ≤ (ofText text uri).clamp second := by
  rw [Position.le_iff_not_lt, positionAt_lt_iff, Nat.not_lt]

end Document

end StoryScript
