import Mathlib.Data.List.TakeWhile
import StoryScript.Text.Numeral

/-!
# Spellings of an integer

An integer may be spelled with space around it, with a sign, with zeros in front, with single
underscores between its digits and with a fraction of zeros. However it is spelled, the reader
arrives at the same plain numeral, unless the number itself has too many digits.
-/

namespace StoryScript

/-! ### The parts of a spelling -/

inductive NumeralSign where
  | absent
  | plus
  | minus
  deriving DecidableEq, Repr

namespace NumeralSign

def text : NumeralSign → List Char
  | absent => []
  | plus => ['+']
  | minus => ['-']

def apply : NumeralSign → Nat → Int
  | minus, size => -size
  | _, size => size

end NumeralSign

/-- A digit and those behind it; a mark says that an underscore stands in front of one. -/
def underscored (first : Char) (others : List (Bool × Char)) : List Char :=
  first :: others.flatMap fun (marked, c) => if marked then ['_', c] else [c]

/-- A point and zeros behind it, or nothing at all. -/
def zeroFraction (places : Nat) : List Char :=
  if places = 0 then [] else '.' :: List.replicate places '0'

/-- The way in which a text spells an integer. -/
structure NumeralSpelling where
  before : List Char
  sign : NumeralSign
  first : Char
  others : List (Bool × Char)
  places : Nat
  after : List Char
  space : ∀ c ∈ before ++ after, isNumeralSpace c = true
  digit : ∀ c ∈ first :: others.map (·.2), c.isDigit = true

namespace NumeralSpelling

def digits (s : NumeralSpelling) : List Char := s.first :: s.others.map (·.2)

/-- The digits behind the zeros in front. -/
def significant (s : NumeralSpelling) : List Char := s.digits.dropWhile (· = '0')

def text (s : NumeralSpelling) : List Char :=
  s.before ++
    (s.sign.text ++ (underscored s.first s.others ++ zeroFraction s.places) ++ s.after)

def size (s : NumeralSpelling) : Nat := Nat.ofDigitChars 10 s.digits 0

def value (s : NumeralSpelling) : Int := s.sign.apply s.size

end NumeralSpelling

/-! ### Plain numerals -/

/-- Everything that reading a plain numeral can lead to. -/
theorem readUnsigned_cases (text : List Char) :
    readUnsigned text = .error .malformed ∨
    (text.all Char.isDigit = true ∧ readUnsigned text = .ok (Nat.ofDigitChars 10 text 0)) ∨
    ((text.takeWhile Char.isDigit).head? ≠ some '0' ∧
      maxNumeralDigits < (text.takeWhile Char.isDigit).length ∧
      readUnsigned text = .error .tooLong) := by
  unfold readUnsigned
  split
  · exact .inl rfl
  · split
    · next zero =>
      rw [zero]
      exact .inr (.inl ⟨rfl, rfl⟩)
    · exact .inl rfl
  · next nonempty notZero =>
    split
    · next long =>
      refine .inr (.inr ⟨?_, long, rfl⟩)
      intro zero
      obtain ⟨more, run⟩ := List.head?_eq_some_iff.mp zero
      exact notZero more run
    · split
      · next all =>
        rw [List.takeWhile_eq_self_iff.mpr (List.all_eq_true.mp all)]
        exact .inr (.inl ⟨all, rfl⟩)
      · exact .inl rfl

theorem readPlain_of_not_minus {text : List Char} (unsigned : text.head? ≠ some '-') :
    readPlain text = (readUnsigned text).map Int.ofNat := by
  unfold readPlain
  split
  · exact absurd rfl unsigned
  · rfl

/-- A numeral without zeros in front, unless it is that of zero. -/
structure IsUnpadded (digits : List Char) : Prop where
  nonempty : digits ≠ []
  digit : ∀ c ∈ digits, c.isDigit = true
  unpadded : digits.head? = some '0' → digits = ['0']

theorem readUnsigned_of_isUnpadded {digits : List Char} (plain : IsUnpadded digits)
    (short : digits.length ≤ maxNumeralDigits) :
    readUnsigned digits = .ok (Nat.ofDigitChars 10 digits 0) := by
  have run : digits.takeWhile Char.isDigit = digits :=
    List.takeWhile_eq_self_iff.mpr plain.digit
  unfold readUnsigned
  rw [run]
  split
  · exact absurd rfl plain.nonempty
  · have zero := plain.unpadded rfl
    rw [zero]
    rfl
  · rw [if_neg (Nat.not_lt.mpr short), if_pos (List.all_eq_true.mpr plain.digit)]

/-! ### Zeros in front -/

/-- The digits behind the zeros in front, or a single zero if there are no others. -/
def unpadded (digits : List Char) : List Char :=
  match digits.dropWhile (· = '0') with
  | [] => ['0']
  | significant => significant

theorem unpadded_cons_of_ne {c : Char} (notZero : c ≠ '0') (more : List Char) :
    unpadded (c :: more) = c :: more := by
  simp [unpadded, notZero]

theorem unpadded_zero_cons (digits : List Char) : unpadded ('0' :: digits) = unpadded digits := by
  simp [unpadded]

theorem isUnpadded_unpadded {digits : List Char} (digit : ∀ c ∈ digits, c.isDigit = true) :
    IsUnpadded (unpadded digits) := by
  induction digits with
  | nil => exact ⟨by decide, List.all_eq_true.mp (by decide), by decide⟩
  | cons c more inductionHypothesis =>
      by_cases zero : c = '0'
      · rw [zero, unpadded_zero_cons]
        exact inductionHypothesis fun d member => digit d (List.mem_cons_of_mem _ member)
      · rw [unpadded_cons_of_ne zero]
        exact ⟨List.cons_ne_nil _ _, digit, fun same => absurd (Option.some.inj same) zero⟩

theorem ofDigitChars_unpadded (digits : List Char) :
    Nat.ofDigitChars 10 (unpadded digits) 0 = Nat.ofDigitChars 10 digits 0 := by
  induction digits with
  | nil => rfl
  | cons c more inductionHypothesis =>
      by_cases zero : c = '0'
      · rw [zero, unpadded_zero_cons, inductionHypothesis, Nat.ofDigitChars_cons]
        rfl
      · rw [unpadded_cons_of_ne zero]

theorem length_unpadded_le {digits : List Char} {bound : Nat} (positive : 0 < bound)
    (short : (digits.dropWhile (· = '0')).length ≤ bound) : (unpadded digits).length ≤ bound := by
  unfold unpadded
  split
  · exact positive
  · exact short

/-! ### Underscores and fractions -/

theorem ne_nondigit {c : Char} (digit : c.isDigit = true) (other : Char)
    (notDigit : other.isDigit = false) : c ≠ other := by
  rintro rfl
  exact absurd digit (Bool.eq_false_iff.mp notDigit)

section Underscored

theorem underscored_cons (first : Char) (marked : Bool) (c : Char) (others : List (Bool × Char)) :
    underscored first ((marked, c) :: others) =
      first :: ((if marked then ['_'] else []) ++ underscored c others) := by
  cases marked <;> rfl

theorem getLast?_underscored (first : Char) (others : List (Bool × Char)) :
    (underscored first others).getLast? = (first :: others.map (·.2)).getLast? := by
  induction others generalizing first with
  | nil => rfl
  | cons other others inductionHypothesis =>
      obtain ⟨marked, c⟩ := other
      have step := inductionHypothesis c
      rw [underscored_cons, List.map_cons]
      cases marked <;> simp_all [List.getLast?_cons, underscored]

variable {first : Char} {others : List (Bool × Char)}
  (digit : ∀ c ∈ first :: others.map (·.2), c.isDigit = true)
include digit

theorem mem_underscored {c : Char} (member : c ∈ underscored first others) :
    c.isDigit = true ∨ c = '_' := by
  rcases List.mem_cons.mp member with rfl | member
  · exact .inl (digit c List.mem_cons_self)
  obtain ⟨⟨marked, d⟩, listed, inside⟩ := List.mem_flatMap.mp member
  have isDigit := digit d (List.mem_cons_of_mem _ (List.mem_map_of_mem listed))
  cases marked with
  | true =>
      rcases List.mem_cons.mp inside with rfl | last
      · exact .inr rfl
      · exact .inl (List.mem_singleton.mp last ▸ isDigit)
  | false => exact .inl (List.mem_singleton.mp inside ▸ isDigit)

theorem filter_underscored :
    (underscored first others).filter (· ≠ '_') = first :: others.map (·.2) := by
  induction others generalizing first with
  | nil =>
      have notMark := ne_nondigit (digit first List.mem_cons_self) '_' rfl
      simp [underscored, notMark]
  | cons other others inductionHypothesis =>
      obtain ⟨marked, c⟩ := other
      have notMark := ne_nondigit (digit first List.mem_cons_self) '_' rfl
      have rest : (underscored c others).filter (· ≠ '_') = c :: others.map (·.2) :=
        inductionHypothesis fun d member => digit d (List.mem_cons_of_mem _ member)
      rw [underscored_cons, List.filter_cons_of_pos (by simpa using notMark), List.filter_append,
        rest]
      cases marked <;> simp

theorem hasDoubleUnderscore_underscored :
    hasDoubleUnderscore (underscored first others) = false := by
  induction others generalizing first with
  | nil => simp [underscored, hasDoubleUnderscore]
  | cons other others inductionHypothesis =>
      obtain ⟨marked, c⟩ := other
      have notMark := ne_nondigit (digit first List.mem_cons_self) '_' rfl
      have nextNotMark := ne_nondigit (digit c (by simp)) '_' rfl
      have rest : hasDoubleUnderscore (underscored c others) = false :=
        inductionHypothesis fun d member => digit d (List.mem_cons_of_mem _ member)
      rw [underscored_cons]
      cases marked <;> simp_all [hasDoubleUnderscore, underscored]

theorem withoutUnderscores_underscored :
    withoutUnderscores (underscored first others) = first :: others.map (·.2) := by
  have front : (underscored first others).head? ≠ some '_' := by
    intro mark
    exact ne_nondigit (digit first List.mem_cons_self) '_' rfl (Option.some.inj mark)
  have back : (underscored first others).getLast? ≠ some '_' := by
    rw [getLast?_underscored]
    intro mark
    exact ne_nondigit (digit '_' (List.mem_of_mem_getLast? mark)) '_' rfl rfl
  rw [withoutUnderscores, if_neg, filter_underscored digit]
  rw [hasDoubleUnderscore_underscored digit]
  simp [front, back]

/-- The digits up to the first underscore are a beginning of all digits. -/
theorem takeWhile_underscored {rest : List Char} (stops : ∀ c ∈ rest.head?, c.isDigit = false) :
    (underscored first others ++ rest).takeWhile Char.isDigit <+: first :: others.map (·.2) := by
  induction others generalizing first with
  | nil =>
      have isDigit := digit first List.mem_cons_self
      have run : ([first] ++ rest).takeWhile Char.isDigit = [first] :=
        takeWhile_run (by simpa using isDigit) stops
      exact ⟨[], by rw [List.append_nil]; exact run⟩
  | cons other others inductionHypothesis =>
      obtain ⟨marked, c⟩ := other
      have isDigit := digit first List.mem_cons_self
      have more : (underscored c others ++ rest).takeWhile Char.isDigit <+:
          c :: others.map (·.2) :=
        inductionHypothesis fun d member => digit d (List.mem_cons_of_mem _ member)
      rw [underscored_cons, List.cons_append, List.takeWhile_cons_of_pos isDigit, List.map_cons]
      apply List.cons_prefix_cons.mpr
      refine ⟨rfl, ?_⟩
      cases marked with
      | true => exact List.nil_prefix
      | false => exact more

end Underscored

theorem withoutUnderscores_minus {c : Char} {more : List Char} (notMark : c ≠ '_') :
    withoutUnderscores ('-' :: c :: more) = '-' :: withoutUnderscores (c :: more) := by
  have sameDouble : hasDoubleUnderscore ('-' :: c :: more) = hasDoubleUnderscore (c :: more) := by
    simp [hasDoubleUnderscore]
  have notMinus : '-' ≠ '_' := by decide
  simp only [withoutUnderscores, List.head?_cons, List.getLast?_cons_cons, Option.some.injEq,
    notMark, notMinus, sameDouble, false_or]
  split
  · rfl
  · rw [List.filter_cons_of_pos (by decide)]

/-- A fraction of zeros is dropped. -/
theorem withoutZeroFraction_append {numeral : List Char} (whole : '.' ∉ numeral) (places : Nat) :
    withoutZeroFraction (numeral ++ zeroFraction places) = numeral := by
  have shared : ∀ c ∈ numeral, decide (c ≠ '.') = true := by
    intro c member
    apply decide_eq_true
    rintro rfl
    exact whole member
  have stops : ∀ c ∈ (zeroFraction places).head?, decide (c ≠ '.') = false := by
    intro c first
    unfold zeroFraction at first
    split at first
    · cases first
    · rw [← Option.some.inj first]
      decide
  rw [withoutZeroFraction, dropWhile_run shared stops, takeWhile_run shared stops]
  unfold zeroFraction
  split
  · next fraction =>
    split at fraction
    · cases fraction
    · obtain ⟨rfl, rfl⟩ := List.cons.inj fraction
      simp_all
  · next fraction =>
    split at fraction
    · simp_all
    · cases fraction

/-! ### Reading a spelling -/

section Skipping

variable {first : Char} {others : List (Bool × Char)}
  (digit : ∀ c ∈ first :: others.map (·.2), c.isDigit = true)
include digit

/-- Zeros in front are skipped with the underscores behind them. The character before is kept
only in front of the fraction, and there it is a digit. -/
theorem skipZeros_underscored (last : Char) (places : Nat) :
    ∃ first' others',
      skipZeros last (underscored first others ++ zeroFraction places) =
        some (underscored first' others' ++ zeroFraction places) ∧
      first' :: others'.map (·.2) = unpadded (first :: others.map (·.2)) := by
  induction others generalizing first last with
  | nil =>
      by_cases zero : first = '0'
      · refine ⟨'0', [], ?_, by rw [zero]; rfl⟩
        rw [zero]
        unfold zeroFraction
        split <;> simp [underscored, skipZeros]
      · have isDigit := digit first List.mem_cons_self
        refine ⟨first, [], ?_, (unpadded_cons_of_ne zero _).symm⟩
        have notMark := ne_nondigit isDigit '_' rfl
        have notPoint := ne_nondigit isDigit '.' rfl
        simp [underscored, skipZeros, zero, notMark, notPoint, isDigit]
  | cons other others inductionHypothesis =>
      obtain ⟨marked, c⟩ := other
      by_cases zero : first = '0'
      · have behind : ∀ d ∈ c :: others.map (·.2), d.isDigit = true :=
          fun d member => digit d (List.mem_cons_of_mem _ member)
        obtain ⟨first', others', skipped, plain⟩ :=
          inductionHypothesis behind (if marked then '_' else '0')
        refine ⟨first', others', ?_, ?_⟩
        · rw [← skipped, underscored_cons, zero]
          cases marked <;> simp [skipZeros]
        · rw [plain, zero, unpadded_zero_cons]
          rfl
      · have isDigit := digit first List.mem_cons_self
        refine ⟨first, (marked, c) :: others, ?_, (unpadded_cons_of_ne zero _).symm⟩
        have notMark := ne_nondigit isDigit '_' rfl
        have notPoint := ne_nondigit isDigit '.' rfl
        simp [underscored, skipZeros, zero, notMark, notPoint, isDigit]

theorem withoutLeadingZeros_underscored (places : Nat) :
    ∃ first' others',
      withoutLeadingZeros (underscored first others ++ zeroFraction places) =
        some (underscored first' others' ++ zeroFraction places) ∧
      first' :: others'.map (·.2) = unpadded (first :: others.map (·.2)) := by
  obtain ⟨first', others', skipped, plain⟩ := skipZeros_underscored digit first places
  refine ⟨first', others', ?_, plain⟩
  have isDigit := digit first List.mem_cons_self
  have notMark := ne_nondigit isDigit '_' rfl
  have notPoint := ne_nondigit isDigit '.' rfl
  rw [← skipped]
  simp [underscored, withoutLeadingZeros, skipZeros, notMark, notPoint, isDigit]

end Skipping

/-- Space on both sides of a text without any is all that is dropped from it. -/
theorem trim_padded {blank : Char → Bool} {before core after : List Char}
    (isBefore : ∀ c ∈ before, blank c = true) (isAfter : ∀ c ∈ after, blank c = true)
    (solid : ∀ c ∈ core, blank c = false) (nonempty : core ≠ []) :
    trim blank (before ++ (core ++ after)) = core := by
  have front : ∀ c ∈ (core ++ after).head?, blank c = false := by
    obtain ⟨d, more, split⟩ := List.exists_cons_of_ne_nil nonempty
    intro c first
    rw [split, List.cons_append, List.head?_cons, Option.mem_some] at first
    exact solid c (by rw [split, first]; exact List.mem_cons_self)
  have back : ∀ c ∈ core.reverse.head?, blank c = false := by
    intro c last
    exact solid c (List.mem_reverse.mp (List.mem_of_mem_head? last))
  have isAfter : ∀ c ∈ after.reverse, blank c = true :=
    fun c member => isAfter c (List.mem_reverse.mp member)
  rw [trim, dropWhile_run isBefore front, List.reverse_append, dropWhile_run isAfter back,
    List.reverse_reverse]

theorem isNumeralSpace_of_isDigit {c : Char} (digit : c.isDigit = true) :
    isNumeralSpace c = false := by
  obtain ⟨lower, upper⟩ := Char.isDigit_iff_toNat.mp digit
  have lower : 48 ≤ c.toNat := lower
  have upper : c.toNat ≤ 57 := upper
  have ascii : c.toNat < 0x80 := by omega
  simp only [isNumeralSpace, isBlank, if_pos ascii, Bool.and_eq_false_iff, Bool.or_eq_false_iff,
    decide_eq_false_iff_not]
  omega

theorem isDigit_of_isNumeralSpace {c : Char} (space : isNumeralSpace c = true) :
    c.isDigit = false := by
  apply Bool.eq_false_iff.mpr
  intro digit
  rw [isNumeralSpace_of_isDigit digit] at space
  cases space

namespace NumeralSpelling

variable (s : NumeralSpelling)

theorem isUnpadded_digits : IsUnpadded (unpadded s.digits) := isUnpadded_unpadded s.digit

/-- Everything between the space around a spelling. -/
def core : List Char :=
  s.sign.text ++ (underscored s.first s.others ++ zeroFraction s.places)

theorem solid_core : ∀ c ∈ s.core, isNumeralSpace c = false := by
  intro c member
  rcases List.mem_append.mp member with inSign | member
  · generalize s.sign = sign at inSign
    cases sign with
    | absent => cases inSign
    | plus | minus =>
        rw [List.mem_singleton.mp inSign]
        decide
  rcases List.mem_append.mp member with inDigits | inFraction
  · rcases mem_underscored s.digit inDigits with isDigit | rfl
    · exact isNumeralSpace_of_isDigit isDigit
    · decide
  · unfold zeroFraction at inFraction
    split at inFraction
    · cases inFraction
    · rcases List.mem_cons.mp inFraction with rfl | zero
      · decide
      · rw [List.eq_of_mem_replicate zero]
        decide

theorem trim_text : trim isNumeralSpace s.text = s.core := by
  have nonempty : s.core ≠ [] := by simp [core, underscored]
  exact trim_padded (fun c member => s.space c (List.mem_append_left _ member))
    (fun c member => s.space c (List.mem_append_right _ member)) s.solid_core nonempty

/-- The simplified form of a spelling is its sign, if that is a minus, and its digits without
zeros in front. -/
theorem simplified_text :
    simplified s.text =
      some ((if s.sign = .minus then ['-'] else []) ++ unpadded s.digits) := by
  obtain ⟨first', others', dropped, plain⟩ := withoutLeadingZeros_underscored s.digit s.places
  have digit : ∀ c ∈ first' :: others'.map (·.2), c.isDigit = true := by
    rw [plain]
    exact s.isUnpadded_digits.digit
  have whole : '.' ∉ underscored first' others' := by
    intro point
    rcases mem_underscored digit point with isDigit | isMark
    · exact absurd isDigit (by decide)
    · exact absurd isMark (by decide)
  have notMark := ne_nondigit (digit first' List.mem_cons_self) '_' rfl
  have notPlus := ne_nondigit (s.digit s.first List.mem_cons_self) '+' rfl
  have notMinus := ne_nondigit (s.digit s.first List.mem_cons_self) '-' rfl
  have unsigned : withoutUnderscores (withoutZeroFraction
      (underscored first' others' ++ zeroFraction s.places)) = unpadded s.digits := by
    rw [withoutZeroFraction_append whole, withoutUnderscores_underscored digit, plain]
    rfl
  have signed : withoutUnderscores (withoutZeroFraction
      ('-' :: (underscored first' others' ++ zeroFraction s.places))) =
        '-' :: unpadded s.digits := by
    rw [← List.cons_append, withoutZeroFraction_append (by simp [whole]), underscored,
      withoutUnderscores_minus notMark, ← underscored, withoutUnderscores_underscored digit, plain]
    rfl
  rw [simplified, trim_text, core]
  cases s.sign with
  | absent =>
      simp only [NumeralSign.text, List.nil_append]
      split
      · next rest same => exact absurd (List.cons.inj same).1 notPlus
      · next rest same => exact absurd (List.cons.inj same).1 notMinus
      · rw [dropped, Option.map_some, unsigned]
        rfl
  | plus => simp [NumeralSign.text, dropped, unsigned]
  | minus => simp [NumeralSign.text, dropped, signed]

theorem readSimplified_text (short : s.significant.length ≤ maxNumeralDigits) :
    readSimplified s.text = .ok s.value := by
  have plain := s.isUnpadded_digits
  have read := readUnsigned_of_isUnpadded plain
    (length_unpadded_le (by decide : 0 < maxNumeralDigits) short)
  rw [ofDigitChars_unpadded] at read
  have unsigned : (unpadded s.digits).head? ≠ some '-' := by
    intro minus
    exact ne_nondigit (plain.digit '-' (List.mem_of_mem_head? minus)) '-' rfl rfl
  rw [readSimplified, simplified_text, Option.map_some, value]
  cases s.sign with
  | absent | plus =>
      rw [if_neg (by decide), List.nil_append, readPlain_of_not_minus unsigned, read]
      rfl
  | minus =>
      rw [if_pos rfl, List.singleton_append, readPlain, read]
      rfl

/-- What stands behind the digits of a spelling. -/
def rest : List Char := zeroFraction s.places ++ s.after

theorem rest_stops : ∀ c ∈ s.rest.head?, c.isDigit = false := by
  intro c first
  unfold rest zeroFraction at first
  split at first
  · apply isDigit_of_isNumeralSpace
    exact s.space c (List.mem_append_right _ (List.mem_of_mem_head? first))
  · rw [← Option.some.inj first]
    rfl

/-- Where nothing but digits follows the sign, there are no underscores and nothing is left
behind them. -/
theorem eq_digits_of_all
    (all : ∀ c ∈ underscored s.first s.others ++ s.rest, c.isDigit = true) :
    underscored s.first s.others ++ s.rest = s.digits := by
  have ended : s.rest = [] := by
    cases behind : s.rest with
    | nil => rfl
    | cons c more =>
        have notDigit := s.rest_stops c (by rw [behind]; rfl)
        have isDigit := all c (by rw [behind]; simp)
        rw [isDigit] at notDigit
        cases notDigit
  rw [ended, List.append_nil] at all ⊢
  have unmarked : ∀ c ∈ underscored s.first s.others, decide (c ≠ '_') = true :=
    fun c member => decide_eq_true (ne_nondigit (all c member) '_' rfl)
  rw [← List.filter_eq_self.mpr unmarked, filter_underscored s.digit]
  rfl

/-- The digits at the beginning, if the first of them is no zero, are all significant. -/
theorem length_takeWhile_le
    (notZero : ((underscored s.first s.others ++ s.rest).takeWhile Char.isDigit).head? ≠ some '0') :
    ((underscored s.first s.others ++ s.rest).takeWhile Char.isDigit).length ≤
      s.significant.length := by
  have run := takeWhile_underscored s.digit s.rest_stops
  have notZero : s.first ≠ '0' := by
    rintro zero
    apply notZero
    rw [underscored, zero, List.cons_append, List.takeWhile_cons_of_pos (by decide)]
    rfl
  have significant : s.significant = s.digits := by
    rw [NumeralSpelling.significant, digits, List.dropWhile_cons_of_neg (by simpa using notZero)]
  rw [significant]
  exact run.length_le

/-- What follows the sign is not a plain numeral with too many digits. -/
theorem readUnsigned_digits (short : s.significant.length ≤ maxNumeralDigits) :
    readUnsigned (underscored s.first s.others ++ s.rest) = .error .malformed ∨
      readUnsigned (underscored s.first s.others ++ s.rest) = .ok s.size := by
  rcases readUnsigned_cases (underscored s.first s.others ++ s.rest) with
    malformed | ⟨all, read⟩ | ⟨notZero, long, _⟩
  · exact .inl malformed
  · rw [s.eq_digits_of_all (List.all_eq_true.mp all)] at read ⊢
    exact .inr read
  · have within := s.length_takeWhile_le notZero
    omega

/-- A spelling that is taken as a plain numeral is one. -/
theorem readPlain_text (short : s.significant.length ≤ maxNumeralDigits) :
    readPlain s.text = .error .malformed ∨ readPlain s.text = .ok s.value := by
  have text_eq : s.text =
      s.before ++ (s.sign.text ++ (underscored s.first s.others ++ s.rest)) := by
    simp only [text, rest, List.append_assoc]
  -- Space or a plus sign in front is no part of a plain numeral.
  have refused : ∀ (c : Char) (more : List Char), c.isDigit = false → c ≠ '-' →
      readPlain (c :: more) = .error .malformed := by
    intro c more notDigit notMinus
    have noDigits : (c :: more).takeWhile Char.isDigit = [] :=
      List.takeWhile_cons_of_neg (Bool.eq_false_iff.mp notDigit)
    rw [readPlain_of_not_minus (by simpa using notMinus), readUnsigned, noDigits]
    rfl
  cases spaced : s.before with
  | cons c more =>
      left
      have isSpace := s.space c (by rw [spaced]; simp)
      rw [text_eq, spaced]
      apply refused c _ (isDigit_of_isNumeralSpace isSpace)
      rintro rfl
      exact absurd isSpace (by decide)
  | nil =>
      have read := s.readUnsigned_digits short
      rw [text_eq, spaced, List.nil_append, value]
      cases s.sign with
      | absent =>
          have notMinus := ne_nondigit (s.digit s.first List.mem_cons_self) '-' rfl
          rw [NumeralSign.text, List.nil_append, readPlain_of_not_minus (by
            simpa [underscored] using notMinus)]
          rcases read with malformed | read
          · exact .inl (by rw [malformed]; rfl)
          · exact .inr (by rw [read]; rfl)
      | plus => exact .inl (refused '+' _ rfl (by decide))
      | minus =>
          rw [NumeralSign.text, List.singleton_append, readPlain]
          rcases read with malformed | read
          · exact .inl (by rw [malformed]; rfl)
          · exact .inr (by rw [read]; rfl)

/-- Every spelling of an integer is read as that integer, if it does not have too many digits. -/
theorem readInteger_text (short : s.significant.length ≤ maxNumeralDigits) :
    readInteger (String.ofList s.text) = .ok s.value := by
  rw [readInteger, String.toList_ofList]
  rcases s.readPlain_text short with malformed | read
  · rw [malformed]
    exact s.readSimplified_text short
  · rw [read]

end NumeralSpelling

end StoryScript
