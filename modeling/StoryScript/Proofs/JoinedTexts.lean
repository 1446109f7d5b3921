import StoryScript.Proofs.LineBreaks

/-!
# Positions in joined texts

Two texts that do not divide a carriage return from its line feed keep their line breaks when
they are joined: those of the first one stay where they are and those of the second one follow,
further to the right. So an offset of the first text keeps its position, and an offset of the
second one has its position counted on from where the first text stops. The lines add up, and
the characters do so as long as the offset lies on the line that the two texts share.
-/

namespace StoryScript

theorem Seam.of_cons {c : Char} {first second : List Char} (seam : Seam (c :: first) second) :
    Seam first second := by
  intro isReturn
  apply seam
  rw [List.getLast?_cons, isReturn]
  rfl

/-- At a seam a carriage return is followed by a line feed only if both are in the first text. -/
theorem Seam.not_both
    {c : Char} {first second : List Char} (seam : Seam (c :: first) second)
    (notBoth : ∀ more, c = '\r' → first = '\n' :: more → False) :
    ∀ more, c = '\r' → first ++ second = '\n' :: more → False := by
  intro more isReturn feeds
  cases first with
  | nil =>
      apply seam
      · rw [isReturn]
        rfl
      · rw [← List.nil_append second, feeds]
        rfl
  | cons next first =>
      rw [List.cons_append] at feeds
      obtain ⟨rfl, _⟩ := List.cons.inj feeds
      exact notBoth first isReturn rfl

/-! ### The breaks of joined texts -/

/-- The break at offsets that are counted from `n` characters further to the left. -/
def LineBreak.shift (n : Nat) (b : LineBreak) : LineBreak := ⟨n + b.start, n + b.stop⟩

theorem lineBreaksFrom_append
    {first second : List Char} (seam : Seam first second) (index : Nat) :
    lineBreaksFrom index (first ++ second) =
      lineBreaksFrom index first ++ lineBreaksFrom (index + first.length) second := by
  fun_induction lineBreaksFrom index first with
  | case1 index => rfl
  | case2 index rest inductionHypothesis =>
      rw [List.cons_append, List.cons_append, lineBreaksFrom,
        inductionHypothesis seam.of_cons.of_cons, List.cons_append, List.length_cons,
        List.length_cons, Nat.add_assoc index 2, Nat.add_comm 2]
  | case3 index c rest notBoth breaks inductionHypothesis =>
      rw [List.cons_append, lineBreaksFrom.eq_3 _ _ _ (seam.not_both notBoth), if_pos breaks,
        inductionHypothesis seam.of_cons, List.cons_append, List.length_cons,
        Nat.add_assoc index 1, Nat.add_comm 1]
  | case4 index c rest notBoth other inductionHypothesis =>
      rw [List.cons_append, lineBreaksFrom.eq_3 _ _ _ (seam.not_both notBoth), if_neg other,
        inductionHypothesis seam.of_cons, List.length_cons, Nat.add_assoc index 1, Nat.add_comm 1]

theorem lineBreaksFrom_shift (n index : Nat) (text : List Char) :
    lineBreaksFrom (n + index) text = (lineBreaksFrom index text).map (LineBreak.shift n) := by
  fun_induction lineBreaksFrom index text with
  | case1 index => rfl
  | case2 index rest inductionHypothesis =>
      rw [lineBreaksFrom, Nat.add_assoc, inductionHypothesis]
      rfl
  | case3 index c rest notBoth breaks inductionHypothesis =>
      rw [lineBreaksFrom.eq_3 _ _ _ notBoth, if_pos breaks, Nat.add_assoc, inductionHypothesis]
      rfl
  | case4 index c rest notBoth other inductionHypothesis =>
      rw [lineBreaksFrom.eq_3 _ _ _ notBoth, if_neg other, Nat.add_assoc, inductionHypothesis]

theorem lineBreaks_append {first second : List Char} (seam : Seam first second) :
    lineBreaks (first ++ second) =
      lineBreaks first ++ (lineBreaks second).map (LineBreak.shift first.length) := by
  rw [lineBreaks, lineBreaksFrom_append seam, Nat.zero_add, ← Nat.add_zero first.length,
    lineBreaksFrom_shift]
  rfl

theorem LineBreak.OccursIn.start_lt_stop
    {text : List Char} {b : LineBreak} (occurs : b.OccursIn text) : b.start < b.stop := by
  cases occurs with
  | both | returnAlone | feedAlone => simp

theorem LineBreak.OccursIn.stop_le_length
    {text : List Char} {b : LineBreak} (occurs : b.OccursIn text) : b.stop ≤ text.length := by
  cases occurs with
  | both _ last | returnAlone last | feedAlone last => exact (List.getElem?_eq_some_iff.mp last).1

/-! ### The breaks before an offset of joined texts -/

/-- The breaks before an offset of the first text are those of the first text. -/
theorem breaksBefore_append_of_le
    {first second : List Char} (seam : Seam first second) {place : Nat}
    (inFirst : place ≤ first.length) :
    breaksBefore (first ++ second) place = breaksBefore first place := by
  have noneFurther : ((lineBreaks second).map (LineBreak.shift first.length)).filter
      (·.stop ≤ place) = [] := by
    apply List.filter_eq_nil_iff.mpr
    intro b member reached
    obtain ⟨b, found, rfl⟩ := List.mem_map.mp member
    have nonempty := ((mem_lineBreaks_iff second b).mp found).start_lt_stop
    have further : first.length + b.stop ≤ place := of_decide_eq_true reached
    omega
  rw [breaksBefore, lineBreaks_append seam, List.filter_append, noneFurther, List.append_nil,
    breaksBefore]

/-- Before an offset of the second text come all breaks of the first text. -/
theorem breaksBefore_append_add
    {first second : List Char} (seam : Seam first second) (place : Nat) :
    breaksBefore (first ++ second) (first.length + place) =
      breaksBefore first first.length ++
        (breaksBefore second place).map (LineBreak.shift first.length) := by
  have allOfFirst : ∀ further, first.length ≤ further →
      (lineBreaks first).filter (·.stop ≤ further) = lineBreaks first := by
    intro further notBefore
    apply List.filter_eq_self.mpr
    intro b found
    have inside := ((mem_lineBreaks_iff first b).mp found).stop_le_length
    exact decide_eq_true (Nat.le_trans inside notBefore)
  have shifted : (fun b : LineBreak => decide (b.stop ≤ first.length + place)) ∘
      LineBreak.shift first.length = fun b => decide (b.stop ≤ place) := by
    funext b
    simp [LineBreak.shift]
  rw [breaksBefore, lineBreaks_append seam, List.filter_append, List.filter_map, shifted,
    allOfFirst _ (Nat.le_add_right _ _), breaksBefore, allOfFirst _ (Nat.le_refl _), breaksBefore]

/-- The last of joined breaks is in the second text as soon as there is one there. -/
theorem lastStop_append_shift (n : Nat) (front back : List LineBreak) :
    lastStop (front ++ back.map (LineBreak.shift n)) =
      if 0 < back.length then n + lastStop back else lastStop front := by
  rw [lastStop, List.getLast?_append, List.getLast?_map]
  cases last : back.getLast? with
  | none =>
      rw [List.getLast?_eq_none_iff.mp last]
      rfl
  | some b =>
      have someBreak : 0 < back.length := List.length_pos_of_mem (List.mem_of_getLast? last)
      rw [if_pos someBreak, lastStop, last]
      rfl

namespace Document

/-- Positions of two joined texts that do not divide a carriage return from its line feed. Behind
the first text, the lines before an offset of the second one add up with those of the first; on a
later line the character is that of the second text alone, and on the line that the two texts
share the characters add up. In the first text the second one has no influence on positions.
Offsets that lie outside the texts are moved to the nearer end, so there is no bound on them but
the end of the first text. -/
theorem positionAt_append
    {first second : List Char} (seam : Seam first second) (uri firstUri secondUri : String) :
    let whole := ofText (first ++ second) uri
    (∀ k : Nat,
      let a := (ofText first firstUri).positionAt first.length
      let b := (ofText second secondUri).positionAt k
      whole.positionAt (first.length + k) =
        if 0 < b.line then ⟨a.line + b.line, b.character⟩
        else ⟨a.line, a.character + b.character⟩) ∧
    ∀ k : Int, k ≤ first.length → whole.positionAt k = (ofText first firstUri).positionAt k := by
  intro whole
  constructor
  · intro k a b
    have place : whole.clamp (first.length + k) =
        first.length + (ofText second secondUri).clamp k := by
      simp only [whole, clamp, ofText, List.length_append]
      omega
    have front : (ofText first firstUri).clamp first.length = first.length :=
      clamp_ofText (Nat.le_refl _) firstUri
    simp only [a, b, whole, positionAt_eq_breaksBefore] at place ⊢
    rw [place, front, breaksBefore_append_add seam, lastStop_append_shift, List.length_append,
      List.length_map]
    generalize breaksBefore second ((ofText second secondUri).clamp k) = back
    by_cases someBreak : 0 < back.length
    · simp only [if_pos someBreak, Int.natCast_pos, Int.natCast_add]
      rw [Int.add_sub_add_left]
    · have none : back.length = 0 := Nat.eq_zero_of_not_pos someBreak
      have noStop : lastStop back = 0 := by rw [List.eq_nil_of_length_eq_zero none]; rfl
      have sameLine : ¬ 0 < ((0 : Nat) : Int) := by decide
      rw [none, noStop, if_neg (Nat.lt_irrefl 0), if_neg sameLine, Position.mk.injEq]
      omega
  · intro k inFirst
    have place : whole.clamp k = (ofText first firstUri).clamp k := by
      simp only [whole, clamp, ofText, List.length_append]
      omega
    have notBehind := clamp_le_length (ofText first firstUri) k
    simp only [whole, positionAt_eq_breaksBefore] at place ⊢
    rw [place, breaksBefore_append_of_le seam notBehind]

/-- The first text stops in the middle of a line, with which the second one goes on. -/
theorem positionAt_append_shared_line :
    let first := "a\r\nbc".toList
    let second := "d\n\re".toList
    let whole := ofText (first ++ second) "whole"
    Seam first second ∧
    (ofText first "first").positionAt 5 = ⟨1, 2⟩ ∧
    whole.positionAt (first.length + 1 : Nat) = ⟨1, 3⟩ ∧
    whole.positionAt (first.length + 4 : Nat) = ⟨3, 1⟩ ∧
    whole.positionAt 3 = (ofText first "first").positionAt 3 := by
  intro first second whole
  have seam : Seam first second := by
    intro isReturn
    exact absurd isReturn (by decide)
  obtain ⟨behind, inFirst⟩ := positionAt_append seam "whole" "first" "second"
  refine ⟨seam, by decide +kernel, ?_, ?_, inFirst 3 (by decide)⟩
  · exact (behind 1).trans (by decide +kernel)
  · exact (behind 4).trans (by decide +kernel)

end Document

end StoryScript
