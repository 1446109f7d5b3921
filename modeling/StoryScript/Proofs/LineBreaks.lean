import StoryScript.Proofs.LineTable

/-!
# Line breaks and the lines of offsets

A line break is a carriage return and a line feed together, a carriage return that no line feed
follows, or a line feed that no carriage return precedes. Searched from left to right, with the
pair of characters tried first, a text yields exactly these, one behind the other, and each line
after the first one starts where one of them stops. So the line of an offset is the number of
breaks that stop at or before it, and its character is the distance from the last of them.
-/

namespace StoryScript

/-- A line break, from its first character up to where the next line starts. -/
structure LineBreak where
  start : Nat
  stop : Nat
  deriving DecidableEq, Repr

/-- The three ways in which a text can break a line. -/
inductive LineBreak.OccursIn (text : List Char) : LineBreak → Prop
  | both {start : Nat} (returns : text[start]? = some '\r') (feeds : text[start + 1]? = some '\n') :
      OccursIn text ⟨start, start + 2⟩
  | returnAlone {start : Nat} (returns : text[start]? = some '\r')
      (alone : text[start + 1]? ≠ some '\n') : OccursIn text ⟨start, start + 1⟩
  | feedAlone {start : Nat} (feeds : text[start]? = some '\n')
      (alone : ∀ before, start = before + 1 → text[before]? ≠ some '\r') :
      OccursIn text ⟨start, start + 1⟩

/-- The line breaks of a text whose first character has offset `index`, from left to right. -/
def lineBreaksFrom (index : Nat) : List Char → List LineBreak
  | [] => []
  | '\r' :: '\n' :: rest => ⟨index, index + 2⟩ :: lineBreaksFrom (index + 2) rest
  | c :: rest =>
    if c = '\r' ∨ c = '\n' then ⟨index, index + 1⟩ :: lineBreaksFrom (index + 1) rest
    else lineBreaksFrom (index + 1) rest

def lineBreaks (text : List Char) : List LineBreak := lineBreaksFrom 0 text

/-- Two texts that do not divide a carriage return from the line feed behind it. -/
def Seam (first second : List Char) : Prop :=
  first.getLast? = some '\r' → second.head? ≠ some '\n'

theorem seam_concat_of_not_both
    (before : List Char) {c : Char} {rest : List Char}
    (notBoth : ∀ more, c = '\r' → rest = '\n' :: more → False) : Seam (before ++ [c]) rest := by
  intro isReturn feeds
  rw [List.getLast?_concat, Option.some.injEq] at isReturn
  obtain ⟨more, rest⟩ := List.head?_eq_some_iff.mp feeds
  exact notBoth more isReturn rest

namespace LineBreak

theorem OccursIn.start_lt_length
    {text : List Char} {b : LineBreak} (occurs : b.OccursIn text) : b.start < text.length := by
  cases occurs with
  | both character | returnAlone character | feedAlone character =>
      exact (List.getElem?_eq_some_iff.mp character).1

/-- At a seam the next two characters tell the break that starts there: if a line feed comes
first, no carriage return precedes it. -/
theorem occursIn_at_iff {before rest : List Char} (seam : Seam before rest) (stop : Nat) :
    OccursIn (before ++ rest) ⟨before.length, stop⟩ ↔
      (rest[0]? = some '\r' ∧ rest[1]? = some '\n' ∧ stop = before.length + 2) ∨
      (rest[0]? = some '\r' ∧ rest[1]? ≠ some '\n' ∧ stop = before.length + 1) ∨
      (rest[0]? = some '\n' ∧ stop = before.length + 1) := by
  have here : ∀ k, (before ++ rest)[before.length + k]? = rest[k]? := by
    intro k
    rw [List.getElem?_append_right (Nat.le_add_right _ _), Nat.add_sub_cancel_left]
  constructor
  · intro occurs
    cases occurs with
    | both returns feeds => exact .inl ⟨here 0 ▸ returns, here 1 ▸ feeds, rfl⟩
    | returnAlone returns alone => exact .inr (.inl ⟨here 0 ▸ returns, here 1 ▸ alone, rfl⟩)
    | feedAlone feeds alone => exact .inr (.inr ⟨here 0 ▸ feeds, rfl⟩)
  · rintro (⟨returns, feeds, rfl⟩ | ⟨returns, alone, rfl⟩ | ⟨feeds, rfl⟩)
    · exact .both (here 0 ▸ returns) (here 1 ▸ feeds)
    · exact .returnAlone (here 0 ▸ returns) (here 1 ▸ alone)
    · refine .feedAlone (here 0 ▸ feeds) ?_
      intro previous isLast returns
      rw [List.getElem?_append_left (by omega)] at returns
      apply seam
      · rw [List.getLast?_eq_getElem?, isLast]
        exact returns
      · rw [List.head?_eq_getElem?]
        exact feeds

/-- No break starts between a carriage return and the line feed that follows it. -/
theorem not_occursIn_between
    {text : List Char} {place stop : Nat}
    (returns : text[place]? = some '\r') (feeds : text[place + 1]? = some '\n') :
    ¬ OccursIn text ⟨place + 1, stop⟩ := by
  intro occurs
  cases occurs with
  | both returnsAgain | returnAlone returnsAgain =>
      rw [feeds] at returnsAgain
      exact absurd returnsAgain (by decide)
  | feedAlone _ alone => exact alone place rfl returns

/-- A break of a text that does not start before a place. -/
def From (text : List Char) (place : Nat) (b : LineBreak) : Prop :=
  b.OccursIn text ∧ place ≤ b.start

/-- The breaks from a place on are those that start there and those from the next place on. -/
theorem from_iff (text : List Char) (place : Nat) (b : LineBreak) :
    b.From text place ↔ (b.start = place ∧ b.OccursIn text) ∨ b.From text (place + 1) := by
  constructor
  · rintro ⟨occurs, notBefore⟩
    rcases Nat.eq_or_lt_of_le notBefore with here | later
    · exact .inl ⟨here.symm, occurs⟩
    · exact .inr ⟨occurs, later⟩
  · rintro (⟨rfl, occurs⟩ | ⟨occurs, later⟩)
    · exact ⟨occurs, Nat.le_refl _⟩
    · exact ⟨occurs, Nat.le_of_lt later⟩

theorem from_both_iff {before : List Char} (rest : List Char) (b : LineBreak)
    (seam : Seam before ('\r' :: '\n' :: rest)) :
    b.From (before ++ '\r' :: '\n' :: rest) before.length ↔
      b = ⟨before.length, before.length + 2⟩ ∨
        b.From (before ++ '\r' :: '\n' :: rest) (before.length + 2) := by
  obtain ⟨start, stop⟩ := b
  have first : start = before.length ∧ OccursIn (before ++ '\r' :: '\n' :: rest) ⟨start, stop⟩ ↔
      (⟨start, stop⟩ : LineBreak) = ⟨before.length, before.length + 2⟩ := by
    constructor
    · rintro ⟨rfl, occurs⟩
      simpa using (occursIn_at_iff seam stop).mp occurs
    · rintro ⟨⟩
      exact ⟨rfl, (occursIn_at_iff seam _).mpr (by simp)⟩
  have second : ¬ (start = before.length + 1 ∧
      OccursIn (before ++ '\r' :: '\n' :: rest) ⟨start, stop⟩) := by
    rintro ⟨rfl, occurs⟩
    exact not_occursIn_between (by simp) (by simp) occurs
  rw [from_iff, from_iff _ (before.length + 1), first, or_iff_right second]

theorem from_alone_iff {before rest : List Char} {c : Char} (b : LineBreak)
    (breaks : c = '\r' ∨ c = '\n') (seam : Seam before (c :: rest))
    (seamAfter : Seam (before ++ [c]) rest) :
    b.From (before ++ c :: rest) before.length ↔
      b = ⟨before.length, before.length + 1⟩ ∨
        b.From (before ++ c :: rest) (before.length + 1) := by
  obtain ⟨start, stop⟩ := b
  rw [Seam, List.getLast?_concat, List.head?_eq_getElem?] at seamAfter
  have first : start = before.length ∧ OccursIn (before ++ c :: rest) ⟨start, stop⟩ ↔
      (⟨start, stop⟩ : LineBreak) = ⟨before.length, before.length + 1⟩ := by
    constructor
    · rintro ⟨rfl, occurs⟩
      rcases (occursIn_at_iff seam stop).mp occurs with
        ⟨isReturn, feeds, _⟩ | ⟨_, _, rfl⟩ | ⟨_, rfl⟩
      · exact absurd feeds (seamAfter isReturn)
      · rfl
      · rfl
    · rintro ⟨⟩
      refine ⟨rfl, (occursIn_at_iff seam _).mpr (.inr ?_)⟩
      rcases breaks with rfl | rfl
      · exact .inl ⟨rfl, seamAfter rfl, rfl⟩
      · exact .inr ⟨rfl, rfl⟩
  rw [from_iff, first]

theorem from_other_iff {before rest : List Char} {c : Char} (b : LineBreak)
    (other : ¬ (c = '\r' ∨ c = '\n')) (seam : Seam before (c :: rest)) :
    b.From (before ++ c :: rest) before.length ↔
      b.From (before ++ c :: rest) (before.length + 1) := by
  obtain ⟨start, stop⟩ := b
  obtain ⟨notReturn, notFeed⟩ := not_or.mp other
  have none : ¬ (start = before.length ∧ OccursIn (before ++ c :: rest) ⟨start, stop⟩) := by
    rintro ⟨rfl, occurs⟩
    simpa [notReturn, notFeed] using (occursIn_at_iff seam stop).mp occurs
  rw [from_iff, or_iff_right none]

end LineBreak

/-- The search finds exactly the breaks: by induction over the search, which never stands
between a carriage return and a line feed. -/
theorem mem_lineBreaksFrom_iff
    {before rest : List Char} (seam : Seam before rest) (b : LineBreak) :
    b ∈ lineBreaksFrom before.length rest ↔ b.From (before ++ rest) before.length := by
  generalize index : before.length = n
  fun_induction lineBreaksFrom n rest generalizing before with
  | case1 n =>
      constructor
      · intro found
        exact absurd found List.not_mem_nil
      · rintro ⟨occurs, inRest⟩
        have inText := occurs.start_lt_length
        rw [List.append_nil] at inText
        omega
  | case2 n rest inductionHypothesis =>
      have seamAfter : Seam (before ++ ['\r', '\n']) rest := by simp [Seam]
      have later := inductionHypothesis seamAfter (by simp [index])
      rw [List.append_assoc] at later
      subst index
      rw [LineBreak.from_both_iff rest b seam, List.mem_cons, later]
      rfl
  | case3 n c rest notBoth breaks inductionHypothesis =>
      have seamAfter : Seam (before ++ [c]) rest := seam_concat_of_not_both before notBoth
      have later := inductionHypothesis seamAfter (by simp [index])
      rw [List.append_assoc, List.singleton_append] at later
      subst index
      rw [LineBreak.from_alone_iff b breaks seam seamAfter, List.mem_cons, later]
  | case4 n c rest notBoth other inductionHypothesis =>
      have seamAfter : Seam (before ++ [c]) rest := seam_concat_of_not_both before notBoth
      have later := inductionHypothesis seamAfter (by simp [index])
      rw [List.append_assoc, List.singleton_append] at later
      subst index
      rw [LineBreak.from_other_iff b other seam, later]

theorem mem_lineBreaks_iff (text : List Char) (b : LineBreak) :
    b ∈ lineBreaks text ↔ b.OccursIn text := by
  have seam : Seam [] text := by simp [Seam]
  exact (mem_lineBreaksFrom_iff seam b).trans (and_iff_left (Nat.zero_le _))

theorem le_start_of_mem_lineBreaksFrom
    {index : Nat} {text : List Char} {b : LineBreak} (found : b ∈ lineBreaksFrom index text) :
    index ≤ b.start := by
  fun_induction lineBreaksFrom index text with
  | case1 => exact absurd found List.not_mem_nil
  | case2 index rest inductionHypothesis | case3 index _ rest _ _ inductionHypothesis =>
      rcases List.mem_cons.mp found with rfl | found
      · exact Nat.le_refl _
      · exact Nat.le_of_add_right_le (inductionHypothesis found)
  | case4 index c rest notBoth other inductionHypothesis =>
      exact Nat.le_of_add_right_le (inductionHypothesis found)

/-- Breaks are found one behind the other. -/
theorem lineBreaksFrom_pairwise (index : Nat) (text : List Char) :
    (lineBreaksFrom index text).Pairwise fun b later => b.stop ≤ later.start := by
  fun_induction lineBreaksFrom index text with
  | case1 => exact .nil
  | case2 index rest inductionHypothesis | case3 index _ rest _ _ inductionHypothesis =>
      exact .cons (fun later found => le_start_of_mem_lineBreaksFrom found) inductionHypothesis
  | case4 index c rest notBoth other inductionHypothesis => exact inductionHypothesis

/-- Behind each break a line starts, and nowhere else. -/
theorem map_stop_lineBreaksFrom (index : Nat) (text : List Char) :
    (lineBreaksFrom index text).map (·.stop) = (lineStartsFrom #[] index text).toList := by
  fun_induction lineBreaksFrom index text with
  | case1 => rfl
  | case2 index rest inductionHypothesis =>
      rw [lineStartsFrom_cons, lineStartsFrom_cons, List.map_cons, inductionHypothesis]
      simp [endsLine]
  | case3 index c rest notBoth breaks inductionHypothesis =>
      have ends : endsLine c rest = true := by
        rcases breaks with rfl | rfl
        · have alone : rest.head? ≠ some '\n' := seam_concat_of_not_both [] notBoth rfl
          simpa [endsLine] using alone
        · simp [endsLine]
      rw [lineStartsFrom_cons, if_pos ends, List.map_cons, inductionHypothesis]
      rfl
  | case4 index c rest notBoth other inductionHypothesis =>
      obtain ⟨notReturn, notFeed⟩ := not_or.mp other
      have goesOn : endsLine c rest = false := by simp [endsLine, notReturn, notFeed]
      rw [lineStartsFrom_cons, goesOn, inductionHypothesis]
      rfl

theorem toList_lineStarts_eq_stops (text : List Char) :
    (lineStarts text).toList = 0 :: (lineBreaks text).map (·.stop) := by
  rw [toList_lineStarts, lineBreaks, map_stop_lineBreaksFrom]

theorem size_lineStarts (text : List Char) :
    (lineStarts text).size = (lineBreaks text).length + 1 := by
  rw [← Array.length_toList, toList_lineStarts_eq_stops, List.length_cons, List.length_map]

/-- The line after a break starts where the break stops. -/
theorem lineStarts_getD_succ
    {text : List Char} {line : Nat} (inside : line < (lineBreaks text).length) :
    (lineStarts text).getD (line + 1) 0 = (lineBreaks text)[line].stop := by
  rw [Array.getD_eq_getD_getElem?, ← Array.getElem?_toList, toList_lineStarts_eq_stops,
    List.getElem?_cons_succ, List.getElem?_map, List.getElem?_eq_getElem inside]
  rfl

/-! ### Counting the breaks before an offset -/

/-- The line breaks that stop at or before an offset. -/
def breaksBefore (text : List Char) (place : Nat) : List LineBreak :=
  (lineBreaks text).filter (·.stop ≤ place)

/-- They are the breaks that end the lines before the one that the offset lies on. -/
theorem breaksBefore_eq_take (text : List Char) (place : Nat) :
    breaksBefore text place = (lineBreaks text).take (lineAt text place) := by
  obtain ⟨inside, reached, last⟩ := lineAt_spec text place
  have stopped : ∀ b ∈ (lineBreaks text).take (lineAt text place), b.stop ≤ place := by
    intro b member
    obtain ⟨line, bound, rfl⟩ := List.mem_iff_getElem.mp member
    rw [List.length_take] at bound
    rw [List.getElem_take, ← lineStarts_getD_succ]
    rcases Nat.eq_or_lt_of_le (show line + 1 ≤ lineAt text place by omega) with same | earlier
    · rw [same]
      exact reached
    · exact Nat.le_trans (Nat.le_of_lt (lineStarts_increasing text _ _ earlier inside)) reached
  have ahead : ∀ b ∈ (lineBreaks text).drop (lineAt text place), ¬ b.stop ≤ place := by
    intro b member
    obtain ⟨line, bound, rfl⟩ := List.mem_iff_getElem.mp member
    rw [List.length_drop] at bound
    rw [List.getElem_drop, ← lineStarts_getD_succ, Nat.not_le]
    apply last
    · omega
    · rw [size_lineStarts]
      omega
  calc
    breaksBefore text place =
        ((lineBreaks text).take (lineAt text place) ++
          (lineBreaks text).drop (lineAt text place)).filter (·.stop ≤ place) := by
      rw [List.take_append_drop, breaksBefore]
    _ = _ := by
      rw [List.filter_append, List.filter_eq_self.mpr (by simpa using stopped),
        List.filter_eq_nil_iff.mpr (by simpa using ahead), List.append_nil]

theorem lineAt_le_length (text : List Char) (place : Nat) :
    lineAt text place ≤ (lineBreaks text).length := by
  have inside := (lineAt_spec text place).1
  rw [size_lineStarts] at inside
  exact Nat.le_of_lt_succ inside

/-- The line of an offset is the number of breaks before it. -/
theorem lineAt_eq_length (text : List Char) (place : Nat) :
    lineAt text place = (breaksBefore text place).length := by
  rw [breaksBefore_eq_take, List.length_take_of_le (lineAt_le_length text place)]

/-- Where the last of the given breaks stops; without one, where the text starts. -/
def lastStop (breaks : List LineBreak) : Nat := breaks.getLast?.elim 0 (·.stop)

/-- The line of an offset starts where the last break before it stops. -/
theorem lineStarts_lineAt (text : List Char) (place : Nat) :
    (lineStarts text).getD (lineAt text place) 0 = lastStop (breaksBefore text place) := by
  have bound := lineAt_le_length text place
  rw [breaksBefore_eq_take]
  cases line : lineAt text place with
  | zero =>
      have first := lineStarts_first_le text 0
      rw [List.take_zero]
      exact Nat.le_zero.mp first
  | succ earlier =>
      rw [line] at bound
      rw [lineStarts_getD_succ bound, lastStop, List.getLast?_take]
      simp [List.getElem?_eq_getElem bound]

namespace Document

theorem natCast_clamp_ofText (text : List Char) (uri : String) (offset : Int) :
    ((ofText text uri).clamp offset : Int) = max 0 (min offset text.length) := by
  simp only [clamp, ofText]
  omega

theorem positionAt_eq_breaksBefore (text : List Char) (uri : String) (offset : Int) :
    (ofText text uri).positionAt offset =
      let before := breaksBefore text ((ofText text uri).clamp offset)
      ⟨before.length, (ofText text uri).clamp offset - lastStop before⟩ := by
  rw [positionAt_ofText]
  dsimp only
  rw [lineStarts_lineAt, lineAt_eq_length]

theorem lineStarts_getElem?_breaksBefore (text : List Char) (uri : String) (place : Nat) :
    (ofText text uri).lineStarts[(breaksBefore text place).length]? =
      some (lastStop (breaksBefore text place)) := by
  have inside := (lineAt_spec text place).1
  rw [← lineAt_eq_length, ← lineStarts_lineAt]
  simp [ofText, Array.getD, inside]

/-- A position counts the line breaks that stop at or before the offset, moved into the text, and
the characters since the last of them. The breaks are the occurrences of a carriage return and a
line feed together and of either alone. So the starts of the lines increase, the line of a
position is one of them and its character leads from there back to the offset, and positions are
in the order of their offsets: strictly inside the text, where they differ, and weakly
everywhere. -/
theorem positionAt_counts_breaks (text : List Char) (uri : String) :
    let doc := ofText text uri
    (∀ b, b ∈ lineBreaks text ↔ b.OccursIn text) ∧
    (lineBreaks text).Pairwise (fun b later => b.stop ≤ later.start) ∧
    (∀ offset : Int,
      let place := doc.clamp offset
      let position := doc.positionAt offset
      (place : Int) = max 0 (min offset text.length) ∧
      position.line = (breaksBefore text place).length ∧
      position.character = place - lastStop (breaksBefore text place) ∧
      ∃ start, doc.lineStarts[position.line.toNat]? = some start ∧
        start + position.character = place) ∧
    doc.lineStarts.toList.Pairwise (· < ·) ∧
    (∀ first second : Int, 0 ≤ first → first < second → second ≤ text.length →
      doc.positionAt first < doc.positionAt second) ∧
    (∀ first second : Int, 0 ≤ first → first ≤ text.length → 0 ≤ second → second ≤ text.length →
      first ≠ second → doc.positionAt first ≠ doc.positionAt second) ∧
    (∀ first second : Int, first ≤ second → doc.positionAt first ≤ doc.positionAt second) := by
  intro doc
  have clamped : ∀ offset : Int, (doc.clamp offset : Int) = max 0 (min offset text.length) :=
    natCast_clamp_ofText text uri
  refine ⟨mem_lineBreaks_iff text, lineBreaksFrom_pairwise 0 text, ?_, lineStarts_pairwise text,
    ?_, ?_, ?_⟩
  · intro offset place position
    have counted : position = ⟨(breaksBefore text place).length,
        place - lastStop (breaksBefore text place)⟩ := positionAt_eq_breaksBefore text uri offset
    rw [counted]
    refine ⟨clamped offset, rfl, rfl, _, lineStarts_getElem?_breaksBefore text uri place, ?_⟩
    dsimp only
    omega
  · intro first second notBefore ordered notBehind
    have firstPlace := clamped first
    have secondPlace := clamped second
    apply (positionAt_lt_iff text uri first second).mpr
    change doc.clamp first < doc.clamp second
    omega
  · intro first second firstNotBefore firstNotBehind secondNotBefore secondNotBehind different
    rw [Ne, doc.positionAt_eq_iff]
    have firstPlace := clamped first
    have secondPlace := clamped second
    omega
  · intro first second ordered
    have firstPlace := clamped first
    have secondPlace := clamped second
    apply (positionAt_le_iff text uri first second).mpr
    change doc.clamp first ≤ doc.clamp second
    omega

/-- All three kinds of breaks, with an offset between a carriage return and its line feed. -/
theorem positionAt_counts_breaks_mixed :
    let text := "a\r\n\rb\n".toList
    let doc := ofText text "mixed"
    lineBreaks text = [⟨1, 3⟩, ⟨3, 4⟩, ⟨5, 6⟩] ∧
    (doc.positionAt 2).line = 0 ∧ (doc.positionAt 3).line = 1 ∧ (doc.positionAt 99).line = 3 ∧
    (0 ≤ 2 ∧ 2 < 3 ∧ 3 ≤ text.length) ∧
    doc.positionAt 2 < doc.positionAt 3 ∧ doc.positionAt 3 ≠ doc.positionAt 2 ∧
    doc.positionAt (-7) ≤ doc.positionAt 99 := by
  intro text doc
  have found : lineBreaks text = [⟨1, 3⟩, ⟨3, 4⟩, ⟨5, 6⟩] := by decide +kernel
  obtain ⟨_, _, exact, _, strict, different, weak⟩ := positionAt_counts_breaks text "mixed"
  refine ⟨found, ?_, ?_, ?_, by decide, strict 2 3 (by decide) (by decide) (by decide),
    different 3 2 (by decide) (by decide) (by decide) (by decide) (by decide),
    weak (-7) 99 (by decide)⟩
  · rw [(exact 2).2.1]
    decide +kernel
  · rw [(exact 3).2.1]
    decide +kernel
  · rw [(exact 99).2.1]
    decide +kernel

end Document

end StoryScript
