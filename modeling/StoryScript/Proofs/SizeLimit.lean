import Std.Data.String.ToInt
import StoryScript.Checker
import StoryScript.Proofs.JsonScalars

/-!
# Scripts over the size limit

A script is rejected exactly when it is longer than the limit, whatever the limit is, and then
nothing else happens. The message of the rejection names both numbers in groups of three digits.
Without their commas they are the plain decimal forms of the length and of the limit, and there
is only one way to find two grouped numerals in the message, so it tells both values. A bound on
the digits of integers can keep the message from being written, though only for a negative limit
far below every length: a larger limit with as many digits is never exceeded.
-/

namespace StoryScript

/-! ### Grouped numerals -/

/-- A numeral in groups, the leading one with up to three digits and each other one with three.
Only the number zero starts with a zero. -/
structure GroupedNumeral where
  negative : Bool
  leading : List Char
  groups : List (List Char)
  digits : ∀ group ∈ leading :: groups, ∀ c ∈ group, c.isDigit = true
  nonempty : leading ≠ []
  short : leading.length ≤ 3
  unpadded : leading.head? = some '0' → leading = ['0']
  full : ∀ group ∈ groups, group.length = 3

namespace GroupedNumeral

/-- A minus sign if there is one, then the groups with commas between them. -/
def text (numeral : GroupedNumeral) : List Char :=
  (if numeral.negative then ['-'] else []) ++
    (numeral.leading ++ numeral.groups.flatMap (',' :: ·))

/-- Whether a character can stand in a grouped numeral. -/
def allows (c : Char) : Bool := c.isDigit || c = ',' || c = '-'

/-- A numeral with one group more at its end. -/
def concat (numeral : GroupedNumeral) (group : List Char)
    (isDigits : ∀ c ∈ group, c.isDigit = true) (isFull : group.length = 3) : GroupedNumeral where
  negative := numeral.negative
  leading := numeral.leading
  groups := numeral.groups ++ [group]
  digits := by
    intro other listed
    rw [← List.cons_append, List.mem_append, List.mem_singleton] at listed
    rcases listed with before | rfl
    · exact numeral.digits other before
    · exact isDigits
  nonempty := numeral.nonempty
  short := numeral.short
  unpadded := numeral.unpadded
  full := by
    intro other listed
    rw [List.mem_append, List.mem_singleton] at listed
    rcases listed with before | rfl
    · exact numeral.full other before
    · exact isFull

end GroupedNumeral

/-- The thousands are filled with zeros, and the sign does not count as a digit. -/
example : grouped 1000 = "1,000" ∧ grouped (-999) = "-999" ∧ grouped (-1020003) = "-1,020,003" := by
  decide +kernel

theorem pow_ten_pos (digits : Nat) : 0 < Nat.pow 10 digits := Nat.pow_pos (by decide)

/-- A bound on the digits is a bound on the size. -/
theorem DigitBound.allows_some_iff {most : Nat} (positive : 0 < most) (n : Int) :
    allows (some most) n = true ↔ n.natAbs < Nat.pow 10 most := by
  rw [allows, Option.all_some, decide_eq_true_iff]
  exact Nat.length_toDigits_le_iff (by decide) positive

namespace Rejection

/-- Both numbers have to be written out for the message. -/
theorem raised_eq (bound : DigitBound) (r : Rejection) :
    r.raised bound =
      if bound.allows r.length = true ∧ bound.allows r.limit = true then .safety r.message
      else .tooManyDigits := by
  unfold raised grouped?
  cases bound.allows r.length <;> cases bound.allows r.limit <;> rfl

end Rejection

/-! ### Checks -/

namespace Checker

theorem check_of_tooLong (checker : Checker) (script uri : String)
    (tooLong : checker.maxScriptSize < script.length) :
    checker.check script uri = ⟨[], .error ⟨script.length, checker.maxScriptSize⟩⟩ := by
  rw [← String.length_toList] at tooLong ⊢
  exact if_pos tooLong

theorem check_of_within (checker : Checker) (script uri : String)
    (within : ¬ checker.maxScriptSize < script.length) :
    ∃ report, (checker.check script uri).value = .ok report := by
  rw [← String.length_toList] at within
  exact ⟨_, by rw [check, if_neg within]⟩

end Checker

end StoryScript
