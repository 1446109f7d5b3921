import StoryScript.Occurrence

/-!
# What the search for occurrences finds

The search goes from left to right and skips the length of each occurrence. So what it
lists is recognized where it stands, starts increase, and whatever is recognized
anywhere starts inside an occurrence that is listed. Nothing is missed when nothing can
be recognized inside an occurrence, as is the case for starts.
-/

namespace StoryScript

namespace Recognizer

section General

variable {α : Type} (r : Recognizer α)

/-- The search over a text whose first character has the given index. -/
def found (index skip : Nat) (text : List Char) : List (Occurrence α) :=
  (r.occurrencesFrom #[] index skip text).toList

@[simp]
theorem found_nil (index skip : Nat) : r.found index skip [] = [] := rfl

theorem found_some
    {index : Nat} {c : Char} {rest : List Char} {length : Nat} {value : α}
    (recognized : r (c :: rest) = some (length, value)) :
    r.found index 0 (c :: rest) =
      ⟨index, length, value⟩ :: r.found (index + 1) (length - 1) rest := by
  rw [found, occurrencesFrom, recognized]
  dsimp only
  rw [toList_occurrencesFrom]
  rfl

theorem found_none
    {index : Nat} {c : Char} {rest : List Char} (unrecognized : r (c :: rest) = none) :
    r.found index 0 (c :: rest) = r.found (index + 1) 0 rest := by
  rw [found, occurrencesFrom, unrecognized]
  rfl

/-- A recognizer of pieces that begin with an opener. -/
def AtOpeners : Prop := ∀ c rest, c ≠ '(' → r (c :: rest) = none

variable {r} in
/-- Nothing is found in a text without openers, and what was found before it may reach into
it but no further. -/
theorem AtOpeners.found_append
    (atOpeners : r.AtOpeners) {front : List Char} (noOpener : '(' ∉ front)
    {skip : Nat} (inside : skip ≤ front.length) (index : Nat) (rest : List Char) :
    r.found index skip (front ++ rest) = r.found (index + front.length) 0 rest := by
  induction front generalizing index skip with
  | nil =>
      rw [Nat.le_zero.mp inside]
      rfl
  | cons c front inductionHypothesis =>
      obtain ⟨notOpener, noOpener⟩ := List.ne_and_not_mem_of_not_mem_cons noOpener
      have goesOn : ∀ {skip : Nat}, skip ≤ front.length →
          r.found (index + 1) skip (front ++ rest) =
            r.found (index + (c :: front).length) 0 rest := by
        intro skip inside
        rw [inductionHypothesis noOpener inside, List.length_cons, Nat.add_assoc, Nat.add_comm 1]
      cases skip with
      | succ more => exact goesOn (Nat.le_of_succ_le_succ inside)
      | zero =>
          rw [List.cons_append, r.found_none (atOpeners c _ (Ne.symm notOpener))]
          exact goesOn (Nat.zero_le _)

theorem recognized_of_mem_found
    {index skip : Nat} {text : List Char} {o : Occurrence α}
    (listed : o ∈ r.found index skip text) :
    ∃ before, o.start = index + before ∧ before < text.length ∧
      r (text.drop before) = some (o.length, o.value) := by
  induction text generalizing index skip with
  | nil => simp at listed
  | cons c rest inductionHypothesis =>
      have later : ∀ {skip : Nat}, o ∈ r.found (index + 1) skip rest →
          ∃ before, o.start = index + before ∧ before < (c :: rest).length ∧
            r ((c :: rest).drop before) = some (o.length, o.value) := by
        intro skip listed
        obtain ⟨before, start, inside, recognized⟩ := inductionHypothesis listed
        refine ⟨before + 1, by omega, ?_, recognized⟩
        rw [List.length_cons]
        omega
      cases skip with
      | succ more => exact later listed
      | zero =>
          cases recognized : r (c :: rest) with
          | none =>
              rw [r.found_none recognized] at listed
              exact later listed
          | some result =>
              obtain ⟨length, value⟩ := result
              rw [r.found_some recognized] at listed
              rcases List.mem_cons.mp listed with rfl | listed
              · exact ⟨0, rfl, by simp, recognized⟩
              · exact later listed

/-- The search begins behind the characters that it has to skip. -/
theorem le_start_of_mem_found
    {index skip : Nat} {text : List Char} {o : Occurrence α}
    (listed : o ∈ r.found index skip text) : index + skip ≤ o.start := by
  induction text generalizing index skip with
  | nil => simp at listed
  | cons c rest inductionHypothesis =>
      cases skip with
      | succ more =>
          have later : index + 1 + more ≤ o.start := inductionHypothesis listed
          omega
      | zero =>
          cases recognized : r (c :: rest) with
          | none =>
              rw [r.found_none recognized] at listed
              have later := inductionHypothesis listed
              omega
          | some result =>
              obtain ⟨length, value⟩ := result
              rw [r.found_some recognized] at listed
              rcases List.mem_cons.mp listed with rfl | listed
              · exact Nat.le_refl _
              · have later := inductionHypothesis listed
                omega

/-- Nothing is listed that begins inside an earlier occurrence. -/
theorem found_apart (index skip : Nat) (text : List Char) :
    (r.found index skip text).Pairwise fun o q => o.start < q.start ∧ o.stop ≤ q.start := by
  induction text generalizing index skip with
  | nil => simp
  | cons c rest inductionHypothesis =>
      cases skip with
      | succ more => exact inductionHypothesis _ _
      | zero =>
          cases recognized : r (c :: rest) with
          | none =>
              rw [r.found_none recognized]
              exact inductionHypothesis _ _
          | some result =>
              obtain ⟨length, value⟩ := result
              rw [r.found_some recognized]
              apply List.pairwise_cons.mpr
              refine ⟨?_, inductionHypothesis _ _⟩
              intro q listed
              have later := r.le_start_of_mem_found listed
              simp only [Occurrence.stop]
              omega

theorem found_pairwise (index skip : Nat) (text : List Char) :
    (r.found index skip text).Pairwise fun o o' => o.start < o'.start :=
  (r.found_apart index skip text).imp And.left

/-- Whatever is recognized in a text starts where an occurrence starts or inside one; the
first `skip` characters lie inside an earlier occurrence. -/
theorem exists_found_around
    (index skip before : Nat) (text : List Char) (inside : before < text.length)
    (recognized : (r (text.drop before)).isSome = true) :
    before < skip ∨
      ∃ o ∈ r.found index skip text,
        o.start = index + before ∨ o.start < index + before ∧ index + before < o.stop := by
  induction text generalizing index skip before with
  | nil => simp at inside
  | cons c rest inductionHypothesis =>
      cases before with
      | zero =>
          cases skip with
          | succ more => exact .inl (Nat.succ_pos more)
          | zero =>
              obtain ⟨⟨length, value⟩, result⟩ := Option.isSome_iff_exists.mp recognized
              rw [List.drop_zero] at result
              rw [r.found_some result]
              exact .inr ⟨_, List.mem_cons_self, .inl rfl⟩
      | succ before =>
          rw [List.drop_succ_cons] at recognized
          have sameIndex : index + 1 + before = index + (before + 1) := by omega
          have later := fun skip =>
            inductionHypothesis (index + 1) skip before (Nat.lt_of_succ_lt_succ inside) recognized
          rw [sameIndex] at later
          cases skip with
          | succ more => exact (later more).imp Nat.succ_lt_succ id
          | zero =>
              cases result : r (c :: rest) with
              | none =>
                  rw [r.found_none result]
                  exact .inr ((later 0).resolve_left (Nat.not_lt_zero before))
              | some found =>
                  obtain ⟨length, value⟩ := found
                  rw [r.found_some result]
                  right
                  rcases later (length - 1) with skipped | ⟨o, listed, around⟩
                  · refine ⟨_, List.mem_cons_self, .inr ?_⟩
                    simp only [Occurrence.stop]
                    omega
                  · exact ⟨o, List.mem_cons_of_mem _ listed, around⟩

theorem recognized_of_mem_occurrences
    {text : List Char} {o : Occurrence α} (listed : o ∈ r.occurrences text) :
    o.start < text.length ∧ r (text.drop o.start) = some (o.length, o.value) := by
  obtain ⟨before, start, inside, recognized⟩ := r.recognized_of_mem_found listed
  rw [Nat.zero_add] at start
  rw [start]
  exact ⟨inside, recognized⟩

theorem exists_occurrence_around
    {place : Nat} {text : List Char} (inside : place < text.length)
    (recognized : (r (text.drop place)).isSome = true) :
    ∃ o ∈ r.occurrences text, o.start = place ∨ o.start < place ∧ place < o.stop := by
  have around := r.exists_found_around 0 0 place text inside recognized
  rw [Nat.zero_add] at around
  exact around.resolve_left (Nat.not_lt_zero place)

/-- Where no occurrence holds another opener, whatever is recognized at an opener is listed. -/
theorem exists_occurrence_at
    {text : List Char}
    (openerFree : ∀ o ∈ r.occurrences text, '(' ∉ (text.drop (o.start + 1)).take (o.length - 1))
    {place : Nat} (opens : (text.drop place).head? = some '(')
    (recognized : (r (text.drop place)).isSome = true) :
    ∃ o ∈ r.occurrences text, o.start = place := by
  rw [List.head?_drop] at opens
  have inside := (List.getElem?_eq_some_iff.mp opens).1
  obtain ⟨o, listed, start | ⟨before, insideOccurrence⟩⟩ :=
    r.exists_occurrence_around inside recognized
  · exact ⟨o, listed, start⟩
  · have distance : o.start + 1 + (place - (o.start + 1)) = place := by omega
    rw [Occurrence.stop] at insideOccurrence
    have held : ((text.drop (o.start + 1)).take (o.length - 1))[place - (o.start + 1)]? =
        some '(' := by
      rw [List.getElem?_take_of_lt (by omega), List.getElem?_drop, distance]
      exact opens
    exact absurd (List.mem_of_getElem? held) (openerFree o listed)

end General

/-! ### Openings -/

/-- An opening is a parenthesis, the word, and all of the blanks that follow, of which there
is at least one. -/
theorem opening_eq_some_iff (word text rest : List Char) (width : Nat) :
    opening word text = some (width, rest) ↔
      ∃ blanks,
        text = '(' :: (word ++ (blanks ++ rest)) ∧ blanks ≠ [] ∧
        (∀ c ∈ blanks, isBlank c = true) ∧ (∀ c ∈ rest.head?, isBlank c = false) ∧
        width = 1 + word.length + blanks.length := by
  constructor
  · intro opened
    unfold opening at opened
    split at opened
    case h_2 => simp at opened
    case h_1 after =>
      split at opened
      case isFalse => simp at opened
      case isTrue isPrefix =>
        obtain ⟨more, rfl⟩ := List.isPrefixOf_iff_prefix.mp isPrefix
        simp only [List.drop_left] at opened
        split at opened
        case isTrue => simp at opened
        case isFalse someBlank =>
          simp only [Option.some.injEq, Prod.mk.injEq] at opened
          obtain ⟨rfl, rfl⟩ := opened
          refine ⟨more.takeWhile isBlank, ?_, ?_, ?_, ?_, rfl⟩
          · rw [List.takeWhile_append_dropWhile]
          · simpa using someBlank
          · intro c member
            exact List.all_eq_true.mp List.all_takeWhile c member
          · exact dropWhile_stops isBlank more
  · rintro ⟨blanks, rfl, someBlank, allBlanks, stops, rfl⟩
    have isPrefix : word.isPrefixOf (word ++ (blanks ++ rest)) = true :=
      List.isPrefixOf_iff_prefix.mpr (List.prefix_append _ _)
    simp only [opening, isPrefix, if_true, List.drop_left, takeWhile_run allBlanks stops,
      dropWhile_run allBlanks stops]
    rw [if_neg (by simpa using someBlank)]

theorem opening_of_not_opener (word : List Char) {c : Char} (notOpener : c ≠ '(')
    (rest : List Char) : opening word (c :: rest) = none := by
  unfold opening
  split
  · next split => exact absurd (List.cons.inj split).1 notOpener
  · rfl

theorem label_atOpeners : label.AtOpeners := by
  intro c rest notOpener
  rw [label, opening_of_not_opener _ notOpener]

theorem start_atOpeners : start.AtOpeners := by
  intro c rest notOpener
  rw [start, opening_of_not_opener _ notOpener]

theorem opening_isSome_iff (word text : List Char) :
    (opening word text).isSome = true ↔
      ∃ c more, text = '(' :: (word ++ c :: more) ∧ isBlank c = true := by
  constructor
  · intro opened
    obtain ⟨⟨width, rest⟩, result⟩ := Option.isSome_iff_exists.mp opened
    obtain ⟨blanks, rfl, someBlank, allBlanks, _⟩ := (opening_eq_some_iff _ _ _ _).mp result
    obtain ⟨c, more, rfl⟩ := List.exists_cons_of_ne_nil someBlank
    exact ⟨c, more ++ rest, rfl, allBlanks c (by simp)⟩
  · rintro ⟨c, more, rfl, blank⟩
    have opened : opening word ('(' :: (word ++ c :: more)) =
        some (1 + word.length + (c :: more.takeWhile isBlank).length, more.dropWhile isBlank) := by
      apply (opening_eq_some_iff _ _ _ _).mpr
      refine ⟨c :: more.takeWhile isBlank, ?_, by simp, ?_, ?_, rfl⟩
      · rw [List.cons_append, List.takeWhile_append_dropWhile]
      · intro b member
        rcases List.mem_cons.mp member with rfl | member
        · exact blank
        · exact List.all_eq_true.mp List.all_takeWhile b member
      · exact dropWhile_stops isBlank more
    rw [opened]
    rfl

end Recognizer

/-! ### Starts and unquoted dialogue -/

/-- A start stands at a place: an opener, the word, and a blank. -/
def StartsAt (text : List Char) (place : Nat) : Prop :=
  (text.drop place).take 6 = "(start".toList ∧ ∃ c, text[place + 6]? = some c ∧ isBlank c = true

/-- Unquoted dialogue stands at a place: an opener, the word, blanks, and then something
visible that is neither a quote nor a closer. -/
def UnquotedAt (text : List Char) (place : Nat) : Prop :=
  ∃ blanks c rest,
    text.drop place = '(' :: ("dialogue".toList ++ (blanks ++ c :: rest)) ∧ blanks ≠ [] ∧
    (∀ b ∈ blanks, isBlank b = true) ∧ isBlank c = false ∧ c ≠ '"' ∧ c ≠ ')'

theorem UnquotedAt.opens {text : List Char} {place : Nat} (unquoted : UnquotedAt text place) :
    text[place]? = some '(' := by
  obtain ⟨blanks, c, rest, split, _⟩ := unquoted
  rw [← List.head?_drop, split]
  rfl

theorem UnquotedAt.lt_length {text : List Char} {place : Nat} (unquoted : UnquotedAt text place) :
    place < text.length :=
  (List.getElem?_eq_some_iff.mp unquoted.opens).1

namespace Recognizer

theorem start_isSome (text : List Char) :
    (start text).isSome = (opening "start".toList text).isSome := by
  unfold start
  cases opening "start".toList text <;> rfl

theorem start_split {text : List Char} {length : Nat} {value : Unit}
    (recognized : start text = some (length, value)) :
    ∃ blanks rest,
      text = '(' :: (("start".toList ++ blanks) ++ rest) ∧ length = 6 + blanks.length ∧
      ∀ c ∈ blanks, isBlank c = true := by
  unfold start at recognized
  split at recognized
  case h_2 => simp at recognized
  case h_1 width rest opened =>
    obtain ⟨blanks, rfl, _, allBlanks, _, rfl⟩ := (opening_eq_some_iff _ _ _ _).mp opened
    simp only [Option.some.injEq, Prod.mk.injEq] at recognized
    refine ⟨blanks, rest, by rw [List.append_assoc], recognized.1.symm, allBlanks⟩

theorem start_isSome_iff (text : List Char) (place : Nat) :
    (start (text.drop place)).isSome = true ↔ StartsAt text place := by
  have sixth : text[place + 6]? = ((text.drop place).drop 6).head? := by
    rw [List.drop_drop, List.head?_drop]
  rw [start_isSome, opening_isSome_iff, StartsAt, sixth]
  generalize text.drop place = text
  constructor
  · rintro ⟨c, more, rfl, blank⟩
    exact ⟨rfl, c, rfl, blank⟩
  · rintro ⟨word, c, next, blank⟩
    obtain ⟨more, afterWord⟩ := List.head?_eq_some_iff.mp next
    refine ⟨c, more, ?_, blank⟩
    calc
      text = text.take 6 ++ text.drop 6 := (List.take_append_drop 6 text).symm
      _ = _ := by
        rw [word, afterWord]
        rfl

/-- Inside a start there is no other one: all its characters after the first are those of
the word or blanks. -/
theorem start_openerFree {text : List Char} {o : Occurrence Unit}
    (listed : o ∈ start.occurrences text) :
    '(' ∉ (text.drop (o.start + 1)).take (o.length - 1) := by
  obtain ⟨blanks, rest, split, width, allBlanks⟩ :=
    start_split (start.recognized_of_mem_occurrences listed).2
  have length : o.length - 1 = ("start".toList ++ blanks).length := by
    rw [width, List.length_append]
    simp
  rw [← List.drop_drop, split, List.drop_one, List.tail_cons, length, List.take_left]
  intro member
  rcases List.mem_append.mp member with inWord | inBlanks
  · exact absurd inWord (by decide)
  · exact absurd (allBlanks _ inBlanks) (by decide)

theorem mem_starts_iff (text : List Char) (place : Nat) :
    place ∈ (start.occurrences text).map (·.start) ↔ StartsAt text place := by
  rw [← start_isSome_iff]
  constructor
  · intro member
    obtain ⟨o, listed, rfl⟩ := List.mem_map.mp member
    rw [(start.recognized_of_mem_occurrences listed).2]
    rfl
  · intro recognized
    have opens : (text.drop place).head? = some '(' := by
      obtain ⟨c, more, split, _⟩ := (opening_isSome_iff _ _).mp (start_isSome _ ▸ recognized)
      rw [split]
      rfl
    exact List.mem_map.mpr
      (start.exists_occurrence_at (fun o listed => start_openerFree listed) opens recognized)

theorem unquotedDialogue_isSome_iff (text : List Char) (place : Nat) :
    (unquotedDialogue (text.drop place)).isSome = true ↔ UnquotedAt text place := by
  unfold UnquotedAt
  generalize text.drop place = text
  constructor
  · intro recognized
    unfold unquotedDialogue at recognized
    split at recognized
    case h_2 => simp at recognized
    case h_1 width rest opened =>
      obtain ⟨blanks, rfl, someBlank, allBlanks, stops, _⟩ :=
        (opening_eq_some_iff _ _ _ _).mp opened
      cases rest with
      | nil => simp at recognized
      | cons c more =>
          refine ⟨blanks, c, more, rfl, someBlank, allBlanks, stops c rfl, ?_⟩
          cases goesOn : (c != '"' && c != ')') with
          | true => simpa using goesOn
          | false => simp [goesOn] at recognized
  · rintro ⟨blanks, c, rest, rfl, someBlank, allBlanks, visible, notQuote, notCloser⟩
    have opened : opening "dialogue".toList ('(' :: ("dialogue".toList ++ (blanks ++ c :: rest))) =
        some (1 + "dialogue".toList.length + blanks.length, c :: rest) := by
      apply (opening_eq_some_iff _ _ _ _).mpr
      refine ⟨blanks, rfl, someBlank, allBlanks, ?_, rfl⟩
      intro first member
      rw [List.head?_cons, Option.mem_some_iff] at member
      rwa [← member]
    have goesOn : (c != '"' && c != ')') = true := by simp [notQuote, notCloser]
    rw [unquotedDialogue, opened]
    simp [goesOn]

theorem unquotedAt_of_mem_occurrences
    {text : List Char} {o : Occurrence Unit} (listed : o ∈ unquotedDialogue.occurrences text) :
    UnquotedAt text o.start := by
  apply (unquotedDialogue_isSome_iff _ _).mp
  rw [(unquotedDialogue.recognized_of_mem_occurrences listed).2]
  rfl

/-- The search for unquoted dialogue finds something whenever there is some. -/
theorem unquotedDialogue_occurrences_eq_nil_iff (text : List Char) :
    unquotedDialogue.occurrences text = [] ↔ ∀ place, ¬ UnquotedAt text place := by
  constructor
  · intro none place unquoted
    obtain ⟨o, listed, _⟩ := unquotedDialogue.exists_occurrence_around unquoted.lt_length
      ((unquotedDialogue_isSome_iff _ _).mpr unquoted)
    simp [none] at listed
  · intro quoted
    apply List.eq_nil_iff_forall_not_mem.mpr
    intro o listed
    exact quoted o.start (unquotedAt_of_mem_occurrences listed)

end Recognizer

end StoryScript
