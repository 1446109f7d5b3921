import StoryScript.Json.Parser
import StoryScript.Json.Printer
import StoryScript.Text.Blank

/-!
# Strings and numbers as JSON text

Every character of a string is written in printable ASCII and read back as itself: directly,
by a short escape, by the escape of its code point, or, above the basic plane, by the escapes
of two surrogates that are joined again. A number is read up to the first character that does
not continue it.
-/

namespace StoryScript

/-- The characters of one line of ASCII text. -/
def PrintableAscii (c : Char) : Prop := 0x20 ≤ c.toNat ∧ c.toNat ≤ 0x7e

instance (c : Char) : Decidable (PrintableAscii c) := inferInstanceAs (Decidable (_ ∧ _))

/-! ### Hexadecimal digits -/

theorem hexDigits_four (n : Nat) :
    hexDigits 4 n =
      [(n / 4096 % 16).digitChar, (n / 256 % 16).digitChar, (n / 16 % 16).digitChar,
        (n % 16).digitChar] := by
  simp [hexDigits, Nat.div_div_eq_div_mul]

theorem printable_digitChar : ∀ digit < 16, PrintableAscii digit.digitChar := by decide

theorem printable_hexDigits (width n : Nat) : ∀ c ∈ hexDigits width n, PrintableAscii c := by
  induction width generalizing n with
  | zero => simp [hexDigits]
  | succ width inductionHypothesis =>
      intro c member
      rcases List.mem_append.mp member with before | last
      · exact inductionHypothesis _ c before
      · rw [List.mem_singleton.mp last]
        exact printable_digitChar _ (Nat.mod_lt _ (by decide))

namespace Json

theorem hexValue?_digitChar : ∀ digit < 16, hexValue? digit.digitChar = some digit := by decide

theorem unit?_digits {n : Nat} (small : n < 0x10000) :
    unit? (n / 4096 % 16).digitChar (n / 256 % 16).digitChar (n / 16 % 16).digitChar
      (n % 16).digitChar = some n := by
  have digit : ∀ m : Nat, hexValue? (m % 16).digitChar = some (m % 16) :=
    fun m => hexValue?_digitChar _ (Nat.mod_lt m (by decide))
  simp only [unit?, digit, Option.some.injEq]
  omega

/-! ### Strings -/

/-- The four ways in which a character is written inside a string. -/
theorem escapeChar_cases (c : Char) :
    (∃ letter, letter ≠ 'u' ∧ PrintableAscii letter ∧ shortEscape? letter = some c ∧
      escapeChar c = ['\\', letter]) ∨
    (c ≠ '"' ∧ c ≠ '\\' ∧ PrintableAscii c ∧ escapeChar c = [c]) ∨
    (c.toNat < 0x10000 ∧ escapeChar c = escapeUnit c.toNat) ∨
    (0x10000 ≤ c.toNat ∧
      escapeChar c = escapeUnit (0xd800 + (c.toNat - 0x10000) / 0x400) ++
        escapeUnit (0xdc00 + (c.toNat - 0x10000) % 0x400)) := by
  by_cases isShort : c ∈ ['"', '\\', '\n', '\r', '\t', '\x08', '\x0c']
  · left
    simp only [List.mem_cons, List.not_mem_nil, or_false] at isShort
    rcases isShort with rfl | rfl | rfl | rfl | rfl | rfl | rfl
    · exact ⟨'"', by decide, by decide, rfl, rfl⟩
    · exact ⟨'\\', by decide, by decide, rfl, rfl⟩
    · exact ⟨'n', by decide, by decide, rfl, rfl⟩
    · exact ⟨'r', by decide, by decide, rfl, rfl⟩
    · exact ⟨'t', by decide, by decide, rfl, rfl⟩
    · exact ⟨'b', by decide, by decide, rfl, rfl⟩
    · exact ⟨'f', by decide, by decide, rfl, rfl⟩
  · right
    simp only [List.mem_cons, List.not_mem_nil, or_false, not_or] at isShort
    obtain ⟨notQuote, notBackslash, notLine, notReturn, notTab, notBack, notFeed⟩ := isShort
    simp only [escapeChar, if_neg notQuote, if_neg notBackslash, if_neg notLine, if_neg notReturn,
      if_neg notTab, if_neg notBack, if_neg notFeed]
    by_cases printable : PrintableAscii c
    · exact .inl ⟨notQuote, notBackslash, printable, if_pos printable⟩
    · rw [PrintableAscii] at printable
      rw [if_neg printable]
      by_cases small : c.toNat < 0x10000
      · exact .inr (.inl ⟨small, if_pos small⟩)
      · exact .inr (.inr ⟨Nat.le_of_not_lt small, if_neg small⟩)

section Strings

variable (done rest : List Char)

theorem stringBody_short {letter c : Char} (read : shortEscape? letter = some c)
    (notUnit : letter ≠ 'u') :
    stringBody done none ('\\' :: letter :: rest) = stringBody (c :: done) none rest := by
  rw [stringBody] <;> simp_all

theorem stringBody_plain {c : Char} (notQuote : c ≠ '"') (notBackslash : c ≠ '\\')
    (printable : PrintableAscii c) :
    stringBody done none (c :: rest) = stringBody (c :: done) none rest := by
  have notControl : ¬ c.toNat < 0x20 := Nat.not_lt.mpr printable.1
  rw [stringBody]
  · simp [notQuote, notControl]
  · simp [notBackslash]
  · simp [notBackslash]

theorem stringBody_unit {n : Nat} (small : n < 0xd800 ∨ 0xe000 ≤ n ∧ n < 0x10000) :
    stringBody done none (escapeUnit n ++ rest) = stringBody (Char.ofNat n :: done) none rest := by
  have notHigh : ¬ (0xd800 ≤ n ∧ n < 0xdc00) := by omega
  have notLow : ¬ (0xdc00 ≤ n ∧ n < 0xe000) := by omega
  have read := unit?_digits (n := n) (by omega)
  rw [escapeUnit, hexDigits_four, List.cons_append, List.cons_append, stringBody.eq_def]
  simp only [List.cons_append, List.nil_append, read, if_neg notHigh, if_neg notLow]

/-- Two surrogates are joined to one character. -/
theorem stringBody_pair {high low : Nat}
    (isHigh : 0xd800 ≤ high ∧ high < 0xdc00) (isLow : 0xdc00 ≤ low ∧ low < 0xe000) :
    stringBody done none (escapeUnit high ++ (escapeUnit low ++ rest)) =
      stringBody (Char.ofNat (0x10000 + (high - 0xd800) * 0x400 + (low - 0xdc00)) :: done)
        none rest := by
  have readHigh := unit?_digits (n := high) (by omega)
  have readLow := unit?_digits (n := low) (by omega)
  have waiting : stringBody done none (escapeUnit high ++ (escapeUnit low ++ rest)) =
      stringBody done (some high) (escapeUnit low ++ rest) := by
    rw [escapeUnit, hexDigits_four, List.cons_append, List.cons_append, stringBody.eq_def]
    simp only [List.cons_append, List.nil_append, readHigh, if_pos isHigh]
  rw [waiting, escapeUnit, hexDigits_four, List.cons_append, List.cons_append, stringBody.eq_def]
  simp only [List.cons_append, List.nil_append, readLow, if_pos isLow]

/-- A written character is read back as itself. -/
theorem stringBody_escapeChar (c : Char) :
    stringBody done none (escapeChar c ++ rest) = stringBody (c :: done) none rest := by
  have valid : c.toNat < 0xd800 ∨ 0xdfff < c.toNat ∧ c.toNat < 0x110000 := c.valid
  rcases escapeChar_cases c with
    ⟨letter, notUnit, _, read, written⟩ | ⟨notQuote, notBackslash, printable, written⟩ |
    ⟨small, written⟩ | ⟨large, written⟩
  · rw [written]
    exact stringBody_short done rest read notUnit
  · rw [written]
    exact stringBody_plain done rest notQuote notBackslash printable
  · rw [written, stringBody_unit done rest (by omega), Char.ofNat_toNat]
  · have joined : 0x10000 + (0xd800 + (c.toNat - 0x10000) / 0x400 - 0xd800) * 0x400 +
        (0xdc00 + (c.toNat - 0x10000) % 0x400 - 0xdc00) = c.toNat := by omega
    rw [written, List.append_assoc, stringBody_pair done rest (by omega) (by omega), joined,
      Char.ofNat_toNat]

/-- A written string is read back up to its closing quote. -/
theorem stringBody_flatMap (text : List Char) :
    stringBody done none (text.flatMap escapeChar ++ '"' :: rest) =
      some (String.ofList (done.reverse ++ text), rest) := by
  induction text generalizing done with
  | nil =>
      rw [List.flatMap_nil, List.nil_append, stringBody]
      · simp
      · simp
      · simp
  | cons c text inductionHypothesis =>
      rw [List.flatMap_cons, List.append_assoc, stringBody_escapeChar, inductionHypothesis]
      simp

end Strings

/-- Short escapes, a code point outside ASCII and a pair of surrogates. -/
example : renderString "a\n\"é😀" = "\"a\\n\\\"\\u00e9\\ud83d\\ude00\"".toList := by decide

theorem printable_escapeUnit (n : Nat) : ∀ c ∈ escapeUnit n, PrintableAscii c := by
  intro c member
  rcases List.mem_cons.mp member with rfl | member
  · decide
  rcases List.mem_cons.mp member with rfl | member
  · decide
  · exact printable_hexDigits 4 n c member

theorem printable_escapeChar (c : Char) : ∀ d ∈ escapeChar c, PrintableAscii d := by
  intro d member
  rcases escapeChar_cases c with
    ⟨letter, _, printable, _, written⟩ | ⟨_, _, printable, written⟩ | ⟨_, written⟩ | ⟨_, written⟩
  · rw [written] at member
    rcases List.mem_cons.mp member with rfl | member
    · decide
    · rwa [List.mem_singleton.mp member]
  · rw [written] at member
    rwa [List.mem_singleton.mp member]
  · rw [written] at member
    exact printable_escapeUnit _ d member
  · rw [written] at member
    rcases List.mem_append.mp member with inHigh | inLow
    · exact printable_escapeUnit _ d inHigh
    · exact printable_escapeUnit _ d inLow

theorem printable_renderString (s : String) : ∀ c ∈ renderString s, PrintableAscii c := by
  intro c member
  rcases List.mem_cons.mp member with rfl | member
  · decide
  rcases List.mem_append.mp member with inside | last
  · obtain ⟨d, _, written⟩ := List.mem_flatMap.mp inside
    exact printable_escapeChar d c written
  · rw [List.mem_singleton.mp last]
    decide

/-! ### Numbers -/

section Numerals

theorem isDigit_of_mem_toDigits {n : Nat} {c : Char} (member : c ∈ Nat.toDigits 10 n) :
    c.isDigit = true :=
  Nat.isDigit_of_mem_toDigits (by decide) (by decide) member

/-- Only the numeral of zero starts with a zero. -/
theorem eq_zero_of_head_toDigits {n : Nat} (zero : (Nat.toDigits 10 n).head? = some '0') :
    n = 0 := by
  induction n using Nat.strongRecOn with
  | ind n inductionHypothesis =>
      by_cases small : n < 10
      · have first : ∀ digit < 10, digit.digitChar = '0' → digit = 0 := by decide
        rw [Nat.toDigits_of_lt_base small, List.head?_cons, Option.some.injEq] at zero
        exact first n small zero
      · rw [Nat.toDigits_of_base_le (by decide) (Nat.le_of_not_lt small)] at zero
        have front : (Nat.toDigits 10 (n / 10)).head? = some '0' := by
          cases digits : Nat.toDigits 10 (n / 10) with
          | nil => exact absurd digits Nat.toDigits_ne_nil
          | cons c more => rwa [digits] at zero
        have := inductionHypothesis (n / 10) (by omega) front
        omega

/-- A sign may stand in front of the digits of an integer, and nothing else. -/
theorem renderInt_cases (n : Int) :
    (∃ size : Nat, n = size ∧ renderInt n = Nat.toDigits 10 size) ∨
    (∃ size : Nat, n = -size ∧ renderInt n = '-' :: Nat.toDigits 10 size) := by
  cases n with
  | ofNat size => exact .inl ⟨size, rfl, Nat.toList_repr⟩
  | negSucc size =>
      refine .inr ⟨size + 1, rfl, ?_⟩
      rw [renderInt, Int.repr, String.toList_append, Nat.toList_repr]
      rfl

variable {n : Nat} {rest : List Char} (stops : ∀ c ∈ rest.head?, c.isDigit = false)
include stops

theorem takeWhile_toDigits :
    (Nat.toDigits 10 n ++ rest).takeWhile Char.isDigit = Nat.toDigits 10 n :=
  takeWhile_run (fun _ => isDigit_of_mem_toDigits) stops

theorem dropWhile_toDigits : (Nat.toDigits 10 n ++ rest).dropWhile Char.isDigit = rest :=
  dropWhile_run (fun _ => isDigit_of_mem_toDigits) stops

end Numerals

/-- Whether a character can stand behind another one inside a number. -/
def continuesNumber (c : Char) : Bool := c.isDigit || c = '.' || c = 'e' || c = 'E'

/-- A text that does not continue a number before it. -/
def EndsNumber (rest : List Char) : Prop := ∀ c ∈ rest.head?, continuesNumber c = false

section Numbers

variable {rest : List Char}

theorem fraction_of_not_point (notPoint : rest.head? ≠ some '.') :
    fraction rest = some ([], rest) := by
  unfold fraction
  split
  · simp at notPoint
  · rfl

namespace EndsNumber

theorem not_digit (ends : EndsNumber rest) : ∀ c ∈ rest.head?, c.isDigit = false := by
  intro c first
  have stops := ends c first
  simp only [continuesNumber, Bool.or_eq_false_iff] at stops
  exact stops.1.1.1

theorem fraction (ends : EndsNumber rest) : fraction rest = some ([], rest) := by
  apply fraction_of_not_point
  intro point
  exact absurd (ends _ point) (by decide)

theorem exponent (ends : EndsNumber rest) : exponent rest = some (none, rest) := by
  cases rest with
  | nil => rfl
  | cons c more =>
      have stops := ends c rfl
      simp only [continuesNumber, Bool.or_eq_false_iff, decide_eq_false_iff_not] at stops
      unfold Json.exponent
      exact if_neg fun mark => mark.elim stops.1.2 stops.2

end EndsNumber

theorem toDigits_eq_cons (size : Nat) :
    ∃ c more, Nat.toDigits 10 size = c :: more ∧ c.isDigit = true := by
  obtain ⟨c, more, digits⟩ := List.exists_cons_of_ne_nil (Nat.toDigits_ne_nil (b := 10) (n := size))
  refine ⟨c, more, digits, isDigit_of_mem_toDigits (n := size) ?_⟩
  rw [digits]
  exact List.mem_cons_self

/-- A digit is no sign, and does not start the word for what is not finite. -/
theorem ne_of_isDigit {c : Char} (digit : c.isDigit = true) : c ≠ '+' ∧ c ≠ '-' ∧ c ≠ 'I' := by
  refine ⟨?_, ?_, ?_⟩
  all_goals
    rintro rfl
    exact absurd digit (by decide)

@[simp] theorem digitsValue_toDigits (size : Nat) : digitsValue (Nat.toDigits 10 size) = size :=
  Nat.ofDigitChars_ten_toDigits

/-- The exponent behind its mark is read with its sign. -/
theorem exponent_renderInt (n : Int) (ends : EndsNumber rest) :
    exponent ('e' :: (renderInt n ++ rest)) = some (some n, rest) := by
  rcases renderInt_cases n with ⟨size, rfl, written⟩ | ⟨size, rfl, written⟩
  · have taken := takeWhile_toDigits (n := size) ends.not_digit
    have dropped := dropWhile_toDigits (n := size) ends.not_digit
    have value := digitsValue_toDigits size
    obtain ⟨c, more, digits, digit⟩ := toDigits_eq_cons size
    obtain ⟨notPlus, notMinus, _⟩ := ne_of_isDigit digit
    rw [digits] at written taken dropped value
    rw [written]
    unfold exponent
    simp only [List.cons_append] at taken dropped
    simp [notPlus, notMinus, taken, dropped, value]
  · rw [written]
    unfold exponent
    simp [takeWhile_toDigits ends.not_digit, dropWhile_toDigits ends.not_digit, Nat.toDigits_ne_nil]

/-- A number as it is read: with a power of ten it is no integer. -/
def ofParts (n : Int) : Option Int → Json
  | none => .int n
  | some power => .decimal ⟨n, power⟩

/-- The digits of a number are read, then what follows them. -/
theorem unsigned_toDigits (negative : Bool) (size : Nat) {tail : List Char} {power : Option Int}
    (stops : ∀ c ∈ tail.head?, c.isDigit = false) (whole : fraction tail = some ([], tail))
    (powered : exponent tail = some (power, rest)) :
    unsigned negative (Nat.toDigits 10 size ++ tail) =
      some (ofParts (if negative then -size else size) power, rest) := by
  have wellFormed : ¬ ((Nat.toDigits 10 size).isEmpty = true ∨
      (Nat.toDigits 10 size).head? = some '0' ∧ (Nat.toDigits 10 size).length ≠ 1) := by
    rintro (empty | ⟨zero, long⟩)
    · exact Nat.toDigits_ne_nil (List.isEmpty_iff.mp empty)
    · rw [eq_zero_of_head_toDigits zero] at long
      exact long rfl
  unfold unsigned
  simp only [takeWhile_toDigits stops, dropWhile_toDigits stops, if_neg wellFormed, whole, powered,
    List.append_nil, digitsValue_toDigits]
  cases power with
  | none => simp [ofParts]
  | some power => simp [ofParts]

theorem number_toDigits (size : Nat) (tail : List Char) :
    number (Nat.toDigits 10 size ++ tail) = unsigned false (Nat.toDigits 10 size ++ tail) := by
  obtain ⟨c, more, digits, digit⟩ := toDigits_eq_cons size
  obtain ⟨_, notMinus, notWord⟩ := ne_of_isDigit digit
  simp [digits, number, notMinus, notWord]

theorem number_neg_toDigits (size : Nat) (tail : List Char) :
    number ('-' :: (Nat.toDigits 10 size ++ tail)) =
      unsigned true (Nat.toDigits 10 size ++ tail) := by
  obtain ⟨c, more, digits, digit⟩ := toDigits_eq_cons size
  obtain ⟨_, _, notWord⟩ := ne_of_isDigit digit
  simp [digits, number, notWord]

theorem number_renderInt_append (n : Int) {tail : List Char} {power : Option Int}
    (stops : ∀ c ∈ tail.head?, c.isDigit = false) (whole : fraction tail = some ([], tail))
    (powered : exponent tail = some (power, rest)) :
    number (renderInt n ++ tail) = some (ofParts n power, rest) := by
  rcases renderInt_cases n with ⟨size, rfl, written⟩ | ⟨size, rfl, written⟩
  · rw [written, number_toDigits, unsigned_toDigits false size stops whole powered]
    rfl
  · rw [written, List.cons_append, number_neg_toDigits,
      unsigned_toDigits true size stops whole powered]
    rfl

/-- A written integer is read back, where the text behind it does not continue it. -/
theorem number_renderInt (n : Int) (ends : EndsNumber rest) :
    number (renderInt n ++ rest) = some (.int n, rest) :=
  number_renderInt_append n ends.not_digit ends.fraction ends.exponent

theorem number_renderDecimal (d : Decimal) (ends : EndsNumber rest) :
    number (renderDecimal d ++ rest) = some (.decimal d, rest) := by
  have mark : ∀ c ∈ ('e' :: (renderInt d.exponent ++ rest)).head?, c.isDigit = false := by simp
  rw [renderDecimal, List.append_assoc, List.cons_append]
  exact number_renderInt_append d.mantissa mark (fraction_of_not_point (by simp))
    (exponent_renderInt d.exponent ends)

end Numbers

theorem printable_renderInt (n : Int) : ∀ c ∈ renderInt n, PrintableAscii c := by
  have digits : ∀ size : Nat, ∀ c ∈ Nat.toDigits 10 size, PrintableAscii c := by
    intro size c member
    obtain ⟨lower, upper⟩ := Char.isDigit_iff_toNat.mp (isDigit_of_mem_toDigits member)
    exact ⟨Nat.le_trans (by decide) lower, Nat.le_trans upper (by decide)⟩
  intro c member
  rcases renderInt_cases n with ⟨size, _, written⟩ | ⟨size, _, written⟩
  · rw [written] at member
    exact digits size c member
  · rw [written] at member
    rcases List.mem_cons.mp member with rfl | member
    · decide
    · exact digits size c member

theorem printable_renderDecimal (d : Decimal) : ∀ c ∈ renderDecimal d, PrintableAscii c := by
  intro c member
  rcases List.mem_append.mp member with inMantissa | member
  · exact printable_renderInt d.mantissa c inMantissa
  rcases List.mem_cons.mp member with rfl | inExponent
  · decide
  · exact printable_renderInt d.exponent c inExponent

end Json

end StoryScript
