import StoryScript.Proofs.ClosedForm
import StoryScript.Proofs.Visits

/-!
# Searches across boundaries

The pieces that are searched for begin with an opener and hold no closer, so a closer
decides what is recognized before it. Behind a text that leaves no opener pending, every
search starts anew: all openers of that text have a closer behind them, and no piece can
reach over the boundary.
-/

namespace StoryScript

theorem takeWhile_append_stop
    {p : Char → Bool} {c : Char} (stops : p c = false) (text after : List Char) :
    (text ++ c :: after).takeWhile p = text.takeWhile p := by
  induction text with
  | nil => simp [stops]
  | cons first rest inductionHypothesis =>
      by_cases goesOn : p first = true
      · simp [goesOn, inductionHypothesis]
      · simp [goesOn]

/-- An opener that does not stay pending has a closer behind it. -/
theorem closer_mem_of_nonePending
    {before after : List Char}
    (nonePending : (Pairing.ofText (before ++ '(' :: after)).pending = []) : ')' ∈ after := by
  have opens : (before ++ '(' :: after)[before.length]? = some '(' := by simp
  obtain ⟨p, matched, opener⟩ := closed_of_nonePending nonePending opens
  have ordered := matched.ordered
  have distance : p.closer = before.length + (p.closer - before.length - 1 + 1) := by omega
  have closes := matched.closes
  rw [distance, List.getElem?_append_right (by omega), Nat.add_sub_cancel_left,
    List.getElem?_cons_succ] at closes
  exact List.mem_of_getElem? closes

def Occurrence.shift {α : Type} (n : Nat) (o : Occurrence α) : Occurrence α :=
  ⟨n + o.start, o.length, o.value⟩

namespace Recognizer

/-! ### What a closer decides -/

theorem opening_append_closer
    {word : List Char} (noCloser : ')' ∉ word) (text after : List Char) :
    opening word (text ++ ')' :: after) =
      (opening word text).map fun found => (found.1, found.2 ++ ')' :: after) := by
  cases opened : opening word text with
  | some found =>
      obtain ⟨width, rest⟩ := found
      obtain ⟨blanks, rfl, someBlank, allBlanks, stops, rfl⟩ :=
        (opening_eq_some_iff _ _ _ _).mp opened
      apply (opening_eq_some_iff _ _ _ _).mpr
      refine ⟨blanks, by simp, someBlank, allBlanks, ?_, rfl⟩
      cases rest with
      | nil => simp; decide
      | cons c more => simpa using stops
  | none =>
      rw [Option.map_none, Option.eq_none_iff_forall_ne_some]
      rintro ⟨width, rest⟩ reached
      obtain ⟨blanks, split, someBlank, allBlanks, stops, _⟩ :=
        (opening_eq_some_iff _ _ _ _).mp reached
      have noCloserBefore : ')' ∉ '(' :: (word ++ blanks) := by
        intro member
        rcases List.mem_cons.mp member with same | member
        · exact absurd same (by decide)
        rcases List.mem_append.mp member with inWord | inBlanks
        · exact noCloser inWord
        · exact absurd (allBlanks _ inBlanks) (by decide)
      have cut : text ++ ')' :: after = '(' :: (word ++ blanks) ++ rest := by
        rw [split, List.cons_append, List.append_assoc]
      obtain ⟨more, rfl⟩ := append_of_no_closer noCloserBefore cut
      have rest_eq : rest = more ++ ')' :: after := by
        rw [List.append_assoc] at cut
        exact (List.append_cancel_left cut).symm
      have stillOpened : opening word ('(' :: (word ++ blanks) ++ more) =
          some (1 + word.length + blanks.length, more) := by
        apply (opening_eq_some_iff _ _ _ _).mpr
        refine ⟨blanks, by simp, someBlank, allBlanks, ?_, rfl⟩
        intro c first
        apply stops c
        obtain ⟨others, rfl⟩ := List.head?_eq_some_iff.mp first
        rw [rest_eq]
        rfl
      rw [opened] at stillOpened
      cases stillOpened

theorem length_of_opening
    {word text rest : List Char} {width : Nat} (opened : opening word text = some (width, rest)) :
    width + rest.length = text.length := by
  obtain ⟨blanks, rfl, _, _, _, rfl⟩ := (opening_eq_some_iff _ _ _ _).mp opened
  simp only [List.length_cons, List.length_append]
  omega

/-- Recognizers of pieces that begin with an opener and hold no closer. -/
structure WithoutClosers {α : Type} (r : Recognizer α) : Prop where
  atOpeners : r.AtOpeners
  beforeCloser : ∀ text after, r (text ++ ')' :: after) = r text
  fits : ∀ {text length value}, r text = some (length, value) → length ≤ text.length

/-- An opening and, behind it, at least one character of a class to which closers do not
belong. -/
theorem withoutClosers_of_run
    {α : Type} {r : Recognizer α} (word : List Char) (p : Char → Bool) (value : List Char → α)
    (noCloser : ')' ∉ word) (stops : p ')' = false)
    (recognizes : ∀ text, r text =
      match opening word text with
      | some (width, rest) =>
        let run := rest.takeWhile p
        if run.isEmpty then none else some (width + run.length, value run)
      | none => none) :
    r.WithoutClosers where
  atOpeners c rest notOpener := by rw [recognizes, opening_of_not_opener _ notOpener]
  beforeCloser text after := by
    rw [recognizes, recognizes, opening_append_closer noCloser]
    cases opening word text with
    | none => rfl
    | some found => simp only [Option.map_some, takeWhile_append_stop stops]
  fits {text length v} recognized := by
    rw [recognizes] at recognized
    split at recognized
    case h_2 => simp at recognized
    case h_1 width rest opened =>
      dsimp only at recognized
      split at recognized
      case isTrue => simp at recognized
      case isFalse =>
        have run := (List.takeWhile_prefix p (l := rest)).length_le
        have whole := length_of_opening opened
        simp only [Option.some.injEq, Prod.mk.injEq] at recognized
        omega

theorem label_withoutClosers : label.WithoutClosers :=
  withoutClosers_of_run "label".toList (fun c => !isBlank c && c != ')') String.ofList
    (by decide) (by decide) fun _ => rfl

theorem unquotedDialogue_withoutClosers : unquotedDialogue.WithoutClosers :=
  withoutClosers_of_run "dialogue".toList (fun c => c != '"' && c != ')') (fun _ => ())
    (by decide) (by decide) fun _ => rfl

theorem start_withoutClosers : start.WithoutClosers where
  atOpeners := start_atOpeners
  beforeCloser text after := by
    rw [start, start, opening_append_closer (by decide)]
    cases opening "start".toList text <;> rfl
  fits {text length value} recognized := by
    unfold start at recognized
    split at recognized
    case h_2 => simp at recognized
    case h_1 width rest opened =>
      have whole := length_of_opening opened
      simp only [Option.some.injEq, Prod.mk.injEq] at recognized
      omega

/-! ### Searches behind a text that leaves no opener pending -/

section General

variable {α : Type} {r : Recognizer α}

theorem found_shift (r : Recognizer α) (n index skip : Nat) (text : List Char) :
    r.found (n + index) skip text = (r.found index skip text).map (Occurrence.shift n) := by
  induction text generalizing index skip with
  | nil => rfl
  | cons c rest inductionHypothesis =>
      cases skip with
      | succ more => exact inductionHypothesis (index + 1) more
      | zero =>
          cases recognized : r (c :: rest) with
          | none =>
              rw [r.found_none recognized, r.found_none recognized]
              exact inductionHypothesis (index + 1) 0
          | some result =>
              obtain ⟨length, value⟩ := result
              rw [r.found_some recognized, r.found_some recognized, List.map_cons]
              congr 1
              exact inductionHypothesis (index + 1) (length - 1)

/-- The search over two texts is the search over each of them when every opener of the first
one has a closer behind it there. -/
theorem WithoutClosers.found_append
    (withoutClosers : r.WithoutClosers) {first : List Char}
    (followed : ∀ before after, first = before ++ '(' :: after → ')' ∈ after)
    {skip : Nat} (inside : skip ≤ first.length) (index : Nat) (second : List Char) :
    r.found index skip (first ++ second) =
      r.found index skip first ++ r.found (index + first.length) 0 second := by
  induction first generalizing index skip with
  | nil =>
      rw [Nat.le_zero.mp inside]
      rfl
  | cons c rest inductionHypothesis =>
      have followedInRest : ∀ before after, rest = before ++ '(' :: after → ')' ∈ after := by
        intro before after split
        exact followed (c :: before) after (by rw [split, List.cons_append])
      have goesOn : ∀ {skip : Nat}, skip ≤ rest.length →
          r.found (index + 1) skip (rest ++ second) =
            r.found (index + 1) skip rest ++ r.found (index + (c :: rest).length) 0 second := by
        intro skip inside
        rw [inductionHypothesis followedInRest inside, List.length_cons, Nat.add_assoc,
          Nat.add_comm 1]
      cases skip with
      | succ more => exact goesOn (Nat.le_of_succ_le_succ inside)
      | zero =>
          by_cases isOpener : c = '('
          · subst c
            -- The next closer lies in `rest` and decides what is recognized here.
            obtain ⟨before, after, rfl⟩ := List.append_of_mem (followed [] rest rfl)
            have alone : r ('(' :: (before ++ ')' :: after)) = r ('(' :: before) :=
              withoutClosers.beforeCloser ('(' :: before) after
            have inWhole : r ('(' :: (before ++ ')' :: after ++ second)) = r ('(' :: before) := by
              rw [List.append_assoc, List.cons_append]
              exact withoutClosers.beforeCloser ('(' :: before) (after ++ second)
            rw [List.cons_append]
            cases recognized : r ('(' :: before) with
            | none =>
                rw [recognized] at alone inWhole
                rw [r.found_none alone, r.found_none inWhole]
                exact goesOn (Nat.zero_le _)
            | some result =>
                obtain ⟨length, value⟩ := result
                have fits := withoutClosers.fits recognized
                rw [recognized] at alone inWhole
                rw [r.found_some alone, r.found_some inWhole, List.cons_append]
                congr 1
                apply goesOn
                simp only [List.length_cons, List.length_append] at fits ⊢
                omega
          · have unrecognized := withoutClosers.atOpeners c
            rw [List.cons_append, r.found_none (unrecognized _ isOpener),
              r.found_none (unrecognized _ isOpener)]
            exact goesOn (Nat.zero_le _)

theorem WithoutClosers.occurrences_append
    (withoutClosers : r.WithoutClosers) {first : List Char}
    (nonePending : (Pairing.ofText first).pending = []) (second : List Char) :
    r.occurrences (first ++ second) =
      r.occurrences first ++ (r.occurrences second).map (Occurrence.shift first.length) := by
  have followed : ∀ before after, first = before ++ '(' :: after → ')' ∈ after := by
    rintro before after rfl
    exact closer_mem_of_nonePending nonePending
  have shifted := r.found_shift first.length 0 0 second
  rw [Nat.add_comm] at shifted
  exact (withoutClosers.found_append followed (Nat.zero_le _) 0 second).trans
    (congrArg (r.found 0 0 first ++ ·) shifted)

theorem WithoutClosers.occurrences_of_plain
    (withoutClosers : r.WithoutClosers) {text : List Char} (plain : Plain text) :
    r.occurrences text = [] := by
  have found := withoutClosers.atOpeners.found_append plain.not_mem_opener (Nat.zero_le _) 0 []
  rw [List.append_nil] at found
  exact found

end General

end Recognizer

theorem declaredLabels_append
    {first : List Char} (nonePending : (Pairing.ofText first).pending = [])
    (second : List Char) :
    declaredLabels (first ++ second) = declaredLabels first ++ declaredLabels second := by
  rw [declaredLabels, Recognizer.label_withoutClosers.occurrences_append nonePending,
    List.map_append, List.map_map]
  rfl

/-! ### Dialogue that is never closed -/

/-- Behind a text that leaves no opener pending, an opener is closed if it is closed in what
follows. -/
theorem closed_append_iff
    {first : List Char} (nonePending : (Pairing.ofText first).pending = [])
    (second : List Char) (opener : Nat) :
    Closed (first ++ second) (first.length + opener) ↔ Closed second opener := by
  rw [closed_iff_mem, closed_iff_mem, pairs_append (.inr nonePending), List.map_append,
    List.mem_append, List.map_map]
  constructor
  · rintro (inFirst | inSecond)
    · obtain ⟨p, found, same⟩ := List.mem_map.mp inFirst
      have matched := matchedIn_of_mem_pairs found
      have ordered := matched.ordered
      have inside := matched.closer_lt
      omega
    · obtain ⟨p, found, same⟩ := List.mem_map.mp inSecond
      exact List.mem_map.mpr ⟨p, found, Nat.add_left_cancel same⟩
  · intro inSecond
    obtain ⟨p, found, rfl⟩ := List.mem_map.mp inSecond
    exact .inr (List.mem_map.mpr ⟨p, found, rfl⟩)

theorem unclosedDialogue_append
    {first : List Char} (nonePending : (Pairing.ofText first).pending = [])
    (second : List Char) :
    unclosedDialogue (first ++ second) =
      (unclosedDialogue second).map (Occurrence.shift first.length) := by
  rw [unclosedDialogue,
    Recognizer.unquotedDialogue_withoutClosers.occurrences_append nonePending,
    List.filter_append, List.filter_map]
  have noneInFirst : (Recognizer.unquotedDialogue.occurrences first).filter
      (fun o => ¬ Closed (first ++ second) o.start) = [] := by
    apply List.filter_eq_nil_iff.mpr
    intro o listed
    obtain ⟨p, matched, sameStart⟩ := closed_of_mem_unquotedDialogue nonePending listed
    simpa using ⟨p, matched.append second, sameStart⟩
  rw [noneInFirst, List.nil_append, unclosedDialogue]
  congr 1
  apply List.filter_congr
  intro o _
  simp only [Function.comp_apply, Occurrence.shift, closed_append_iff nonePending]

end StoryScript
