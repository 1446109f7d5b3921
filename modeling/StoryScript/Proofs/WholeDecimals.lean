import Mathlib.Algebra.Order.Field.Rat
import Mathlib.Algebra.Order.Field.Power
import Mathlib.Tactic.FieldSimp
import Mathlib.Tactic.GCongr
import Mathlib.Tactic.Linarith
import Mathlib.Tactic.Positivity
import Mathlib.Tactic.Ring
import StoryScript.Json.Nearest

/-!
# Whole numbers with a fraction or an exponent

A number with a fraction or an exponent is held with 53 significant bits. The rounding at the
scale of its leading bit finds the held number that is nearest to it, among those of every scale.
So a decimal to which a whole number is nearer than any other held number is read as that number;
in particular every whole number that can be held is read from a decimal that equals it.
-/

namespace StoryScript

/-- The number that a decimal denotes. -/
def Decimal.value (d : Decimal) : ℚ := d.mantissa * 10 ^ d.exponent

/-- A number with at most 53 significant bits, none of them too small. -/
def Held (y : ℚ) : Prop :=
  ∃ significand power : ℤ, |significand| < 2 ^ 53 ∧ -1074 ≤ power ∧ y = significand * 2 ^ power

/-- A held number that is nearer to `x` than any other one. -/
structure NearestHeld (x n : ℚ) : Prop where
  held : Held n
  nearer : ∀ y, Held y → y ≠ n → |x - n| < |x - y|

theorem Held.neg {y : ℚ} (held : Held y) : Held (-y) := by
  obtain ⟨significand, power, bits, lowest, rfl⟩ := held
  exact ⟨-significand, power, by rwa [abs_neg], lowest, by push_cast; ring⟩

theorem held_natCast {n : ℕ} (bits : n < 2 ^ 53) : Held n :=
  ⟨n, 0, by rw [Nat.abs_cast]; exact_mod_cast bits, by decide, by simp⟩

theorem held_two_pow (power : ℤ) (lowest : -1074 ≤ power) : Held (2 ^ power) :=
  ⟨1, power, by norm_num, lowest, by simp⟩

theorem nearestHeld_self {x : ℚ} (held : Held x) : NearestHeld x x := by
  refine ⟨held, ?_⟩
  intro y _ different
  rw [sub_self, abs_zero, abs_pos, sub_ne_zero]
  exact different.symm

theorem NearestHeld.neg {x n : ℚ} (nearest : NearestHeld x n) : NearestHeld (-x) (-n) := by
  refine ⟨nearest.held.neg, ?_⟩
  intro y held different
  have distance := nearest.nearer (-y) held.neg fun same => different (by rw [← same, neg_neg])
  rw [← abs_neg, ← abs_neg (x - -y)] at distance
  convert distance using 2 <;> ring

/-- No held number is nearer than the nearest one. -/
theorem NearestHeld.eq_of_le {x n y : ℚ} (nearest : NearestHeld x n) (held : Held y)
    (near : |x - y| ≤ |x - n|) : y = n := by
  by_contra different
  exact absurd (nearest.nearer y held different) (not_lt.mpr near)

/-! ### Rounding -/

/-- No multiple of the divisor is nearer than the rounded one. -/
theorem abs_sub_roundedQuotient_le (num : ℕ) {den : ℕ} (positive : 0 < den) (m : ℤ) :
    |(num : ℤ) - roundedQuotient num den * den| ≤ |(num : ℤ) - m * den| := by
  have below := Nat.mod_lt num positive
  have whole : (num : ℤ) = (num / den : ℕ) * den + (num % den : ℕ) := by
    rw [mul_comm]
    exact_mod_cast (Nat.div_add_mod num den).symm
  have apart : min ((num % den : ℕ) : ℤ) (den - (num % den : ℕ)) ≤ |(num : ℤ) - m * den| := by
    rcases le_or_gt m (num / den : ℕ) with before | behind
    · have multiple : m * den ≤ (num / den : ℕ) * den := by gcongr
      exact le_trans (min_le_left _ _) (le_trans (by omega) (le_abs_self _))
    · have multiple : ((num / den : ℕ) + 1 : ℤ) * den ≤ m * den := by
        gcongr
        omega
      rw [add_mul, one_mul] at multiple
      exact le_trans (min_le_right _ _) (le_trans (by omega) (neg_le_abs _))
  refine le_trans (le_of_eq ?_) apart
  unfold roundedQuotient
  dsimp only
  split
  · next down =>
    rw [whole, add_sub_cancel_left, abs_of_nonneg (Int.natCast_nonneg _), min_eq_left (by omega)]
  · next up =>
    rw [whole, Nat.cast_add, Nat.cast_one, add_mul, one_mul, add_sub_add_left_eq_sub,
      abs_of_nonpos (by omega), min_eq_right (by omega), neg_sub]

theorem roundedQuotient_le (num den : ℕ) : roundedQuotient num den ≤ num / den + 1 := by
  unfold roundedQuotient
  dsimp only
  split <;> omega

theorem roundedQuotient_nearest (num : ℕ) {den : ℕ} (positive : 0 < den) (m : ℤ) :
    |(num : ℚ) / den - roundedQuotient num den| ≤ |(num : ℚ) / den - m| := by
  have den_pos : (0 : ℚ) < den := by exact_mod_cast positive
  have cleared : ∀ k : ℤ, |(num : ℚ) / den - k| = (|(num : ℤ) - k * den| : ℤ) / den := by
    intro k
    have common : (num : ℚ) / den - k = ((num : ℤ) - k * den : ℤ) / den := by
      push_cast
      field_simp
    rw [common, abs_div, abs_of_pos den_pos, Int.cast_abs]
  have rounded := cleared (roundedQuotient num den)
  rw [Int.cast_natCast] at rounded
  rw [rounded, cleared m]
  apply div_le_div_of_nonneg_right _ den_pos.le
  exact_mod_cast abs_sub_roundedQuotient_le num positive m

/-! ### The scale -/

theorem scaled_den_pos (num : ℕ) {den : ℕ} (positive : 0 < den) (power : ℤ) :
    0 < (scaled num den power).2 := by
  unfold scaled
  split
  · exact positive
  · exact Nat.mul_pos positive (Nat.two_pow_pos _)

theorem scaled_ratio (num den : ℕ) (power : ℤ) :
    ((scaled num den power).1 : ℚ) / (scaled num den power).2 = (num : ℚ) / den * 2 ^ power := by
  unfold scaled
  split
  · next up =>
    obtain ⟨k, rfl⟩ := Int.eq_ofNat_of_zero_le up
    simp only [Nat.pow_eq, Int.toNat_natCast, zpow_natCast]
    push_cast
    ring
  · next down =>
    obtain ⟨k, rfl⟩ : ∃ k : ℕ, power = -k := ⟨(-power).toNat, by omega⟩
    simp only [Nat.pow_eq, neg_neg, Int.toNat_natCast, zpow_neg, zpow_natCast]
    push_cast
    rw [div_mul_eq_div_div, div_eq_mul_inv _ ((2 : ℚ) ^ k)]

theorem scaled_div_lt_iff (num : ℕ) {den : ℕ} (positive : 0 < den) (power : ℤ) (bound : ℕ) :
    (scaled num den power).1 / (scaled num den power).2 < bound ↔
      (num : ℚ) / den * 2 ^ power < bound := by
  have den_pos := scaled_den_pos num positive power
  rw [Nat.div_lt_iff_lt_mul den_pos, ← scaled_ratio, div_lt_iff₀ (by exact_mod_cast den_pos)]
  exact_mod_cast Iff.rfl

/-- The significand of a quotient at a scale. -/
def significandAt (num den : ℕ) (power : ℤ) : ℕ :=
  roundedQuotient (scaled num den (-power)).1 (scaled num den (-power)).2

section Scale

variable {num den : ℕ} (num_ne : num ≠ 0) (den_ne : den ≠ 0)
include num_ne den_ne

/-- The leading bits of a quotient tell its size. -/
theorem ratio_bounds :
    (2 : ℚ) ^ ((num.log2 : ℤ) - den.log2 - 1) < num / den ∧
      (num : ℚ) / den < 2 ^ ((num.log2 : ℤ) - den.log2 + 1) := by
  have den_pos : (0 : ℚ) < den := by exact_mod_cast Nat.pos_of_ne_zero den_ne
  have num_low : (2 : ℚ) ^ (num.log2 : ℤ) ≤ num := by exact_mod_cast Nat.log2_self_le num_ne
  have num_high : (num : ℚ) < 2 ^ ((num.log2 : ℤ) + 1) := by
    exact_mod_cast Nat.lt_log2_self (n := num)
  have den_low : (2 : ℚ) ^ (den.log2 : ℤ) ≤ den := by exact_mod_cast Nat.log2_self_le den_ne
  have den_high : (den : ℚ) < 2 ^ ((den.log2 : ℤ) + 1) := by
    exact_mod_cast Nat.lt_log2_self (n := den)
  constructor
  · rw [lt_div_iff₀ den_pos]
    calc (2 : ℚ) ^ ((num.log2 : ℤ) - den.log2 - 1) * den
        < 2 ^ ((num.log2 : ℤ) - den.log2 - 1) * 2 ^ ((den.log2 : ℤ) + 1) := by gcongr
      _ = 2 ^ (num.log2 : ℤ) := by
          rw [← zpow_add₀ (by norm_num)]
          congr 1
          ring
      _ ≤ num := num_low
  · rw [div_lt_iff₀ den_pos]
    calc (num : ℚ) < 2 ^ ((num.log2 : ℤ) + 1) := num_high
      _ = 2 ^ ((num.log2 : ℤ) - den.log2 + 1) * 2 ^ (den.log2 : ℤ) := by
          rw [← zpow_add₀ (by norm_num)]
          congr 1
          ring
      _ ≤ 2 ^ ((num.log2 : ℤ) - den.log2 + 1) * den := by gcongr

/-- The scale at which a number is held: it has 53 bits before the point, or the scale is the
lowest one. -/
theorem exists_scale :
    ∃ power : ℤ,
      nearestBinary num den = (significandAt num den power, power) ∧
      -1074 ≤ power ∧ (num : ℚ) / den < 2 ^ (power + 53) ∧
      ((2 : ℚ) ^ (power + 52) ≤ num / den ∨ power = -1074) := by
  obtain ⟨lower, upper⟩ := ratio_bounds num_ne den_ne
  set guess : ℤ := num.log2 - den.log2 - 52 with guess_eq
  set few := (scaled num den (-guess)).1 / (scaled num den (-guess)).2 < 2 ^ 52 with few_eq
  have few_iff : few ↔ (num : ℚ) / den < 2 ^ (guess + 52) := by
    have scale_pos : (0 : ℚ) < 2 ^ guess := by positivity
    rw [few_eq, scaled_div_lt_iff num (Nat.pos_of_ne_zero den_ne), zpow_neg, ← div_eq_mul_inv,
      div_lt_iff₀ scale_pos, zpow_add₀ (by norm_num), mul_comm]
    norm_num
  have tight : ∃ tightest : ℤ, tightest = (if few then guess - 1 else guess) ∧
      (2 : ℚ) ^ (tightest + 52) ≤ num / den ∧ (num : ℚ) / den < 2 ^ (tightest + 53) := by
    refine ⟨_, rfl, ?_⟩
    split
    · next isFew =>
      rw [show guess - 1 + 52 = num.log2 - den.log2 - 1 by omega,
        show guess - 1 + 53 = guess + 52 by ring]
      exact ⟨lower.le, few_iff.mp isFew⟩
    · next notFew =>
      rw [show guess + 53 = num.log2 - den.log2 + 1 by omega]
      exact ⟨not_lt.mp fun less => notFew (few_iff.mpr less), upper⟩
  obtain ⟨tightest, tightest_eq, enough, small⟩ := tight
  refine ⟨max tightest (-1074), ?_, le_max_right _ _, ?_, ?_⟩
  · rw [tightest_eq]
    rfl
  · refine lt_of_lt_of_le small (zpow_le_zpow_right₀ (by norm_num) ?_)
    omega
  · rcases le_total (-1074) tightest with normal | subnormal
    · rw [max_eq_left normal]
      exact .inl enough
    · exact .inr (max_eq_right subnormal)

end Scale

/-! ### The nearest number -/

/-- Numbers of a lower scale lie below those with 53 bits at this one. -/
theorem le_of_lower_scale {significand lower power : ℤ} (bits : |significand| < 2 ^ 53)
    (below : lower < power) : (significand : ℚ) * 2 ^ lower ≤ 2 ^ (power + 52) :=
  calc (significand : ℚ) * 2 ^ lower ≤ 2 ^ (53 : ℤ) * 2 ^ lower := by
        gcongr
        exact_mod_cast (lt_of_le_of_lt (le_abs_self significand) bits).le
    _ = 2 ^ (53 + lower) := (zpow_add₀ (by norm_num) _ _).symm
    _ ≤ 2 ^ (power + 52) := zpow_le_zpow_right₀ (by norm_num) (by omega)

section Nearest

variable (num : ℕ) {den : ℕ} (positive : 0 < den) (power : ℤ)
include positive

/-- Among the numbers of one scale the rounded one is nearest: distances to them are distances to
integers, seen at the scale. -/
theorem significandAt_nearest (m : ℤ) :
    |(num : ℚ) / den - significandAt num den power * 2 ^ power| ≤
      |(num : ℚ) / den - m * 2 ^ power| := by
  have scale_pos : (0 : ℚ) < 2 ^ power := by positivity
  have nearest := roundedQuotient_nearest (scaled num den (-power)).1
    (scaled_den_pos num positive (-power)) m
  rw [scaled_ratio] at nearest
  have scaledUp : ∀ k : ℚ, |(num : ℚ) / den - k * 2 ^ power| =
      |(num : ℚ) / den * 2 ^ (-power) - k| * 2 ^ power := by
    intro k
    rw [← abs_of_pos scale_pos, ← abs_mul, abs_of_pos scale_pos, sub_mul, mul_assoc,
      ← zpow_add₀ (by norm_num), neg_add_cancel, zpow_zero, mul_one]
  rw [scaledUp, scaledUp]
  exact mul_le_mul_of_nonneg_right nearest scale_pos.le

variable {num power}

theorem significandAt_le (small : (num : ℚ) / den < 2 ^ (power + 53)) :
    significandAt num den power ≤ 2 ^ 53 := by
  have scale_pos : (0 : ℚ) < 2 ^ power := by positivity
  refine le_trans (roundedQuotient_le _ _) (Nat.succ_le_of_lt ?_)
  rw [scaled_div_lt_iff num positive, zpow_neg, ← div_eq_mul_inv, div_lt_iff₀ scale_pos]
  rw [zpow_add₀ (by norm_num), mul_comm] at small
  exact_mod_cast small

/-- If rounding goes up to the next power of two, the number belongs to the next scale. -/
theorem held_significandAt (lowest : -1074 ≤ power)
    (small : (num : ℚ) / den < 2 ^ (power + 53)) :
    Held (significandAt num den power * 2 ^ power) := by
  rcases Nat.lt_or_eq_of_le (significandAt_le positive small) with less | top
  · exact ⟨significandAt num den power, power, by rw [Nat.abs_cast]; exact_mod_cast less, lowest,
      by simp⟩
  · refine ⟨2 ^ 52, power + 1, by norm_num, by omega, ?_⟩
    rw [top, zpow_add₀ (by norm_num)]
    norm_num
    ring

/-- No held number is nearer to a quotient than its significand at the right scale. -/
theorem significandAt_le_held
    (enough : (2 : ℚ) ^ (power + 52) ≤ num / den ∨ power = -1074) {y : ℚ} (held : Held y) :
    |(num : ℚ) / den - significandAt num den power * 2 ^ power| ≤ |(num : ℚ) / den - y| := by
  obtain ⟨significand, other, bits, lowest, rfl⟩ := held
  rcases le_or_gt power other with above | below
  · have multiple := significandAt_nearest num positive power
      (significand * 2 ^ (other - power).toNat)
    have same : ((significand * 2 ^ (other - power).toNat : ℤ) : ℚ) * 2 ^ power =
        significand * 2 ^ other := by
      push_cast
      rw [mul_assoc, ← zpow_natCast, ← zpow_add₀ (by norm_num)]
      congr 2
      omega
    rwa [same] at multiple
  · have normal := enough.resolve_right (by omega)
    have y_le := le_of_lower_scale bits below
    have bottom := significandAt_nearest num positive power (2 ^ 52)
    have bottom_eq : ((2 ^ 52 : ℤ) : ℚ) * 2 ^ power = 2 ^ (power + 52) := by
      rw [zpow_add₀ (by norm_num), mul_comm]
      norm_num
    rw [bottom_eq, abs_of_nonneg (sub_nonneg.mpr normal)] at bottom
    exact le_trans bottom (le_trans (by linarith) (le_abs_self _))

end Nearest

/-- The whole number nearest to a quotient comes back from its significand and its scale. -/
theorem wholeValue?_nearestBinary {num den n : ℕ} (num_ne : num ≠ 0) (den_ne : den ≠ 0)
    (nearest : NearestHeld ((num : ℚ) / den) n) :
    wholeValue? (nearestBinary num den).1 (nearestBinary num den).2 = some n := by
  obtain ⟨power, result, lowest, small, enough⟩ := exists_scale num_ne den_ne
  have positive := Nat.pos_of_ne_zero den_ne
  have same := nearest.eq_of_le (held_significandAt positive lowest small)
    (significandAt_le_held positive enough nearest.held)
  rw [result]
  unfold wholeValue?
  split
  · next up =>
    obtain ⟨k, rfl⟩ := Int.eq_ofNat_of_zero_le up
    rw [zpow_natCast] at same
    simp only [Nat.pow_eq, Int.toNat_natCast, Option.some.injEq]
    exact_mod_cast same
  · next down =>
    obtain ⟨k, rfl⟩ : ∃ k : ℕ, power = -k := ⟨(-power).toNat, by omega⟩
    have multiple : significandAt num den (-k) = n * 2 ^ k := by
      rw [zpow_neg, zpow_natCast, ← div_eq_mul_inv, div_eq_iff (by positivity)] at same
      exact_mod_cast same
    simp [multiple]

/-! ### Decimals -/

theorem NearestHeld.nonneg {x n : ℚ} (nearest : NearestHeld x n) (x_nonneg : 0 ≤ x) : 0 ≤ n := by
  by_contra negative
  rw [not_le] at negative
  have zero : (0 : ℚ) = n := by
    apply nearest.eq_of_le (held_natCast (n := 0) (by decide))
    rw [Nat.cast_zero, sub_zero, abs_of_nonneg x_nonneg, abs_of_nonneg (by linarith)]
    linarith
  exact absurd zero.symm negative.ne

namespace Decimal

/-- The quotient that a decimal is without its sign. -/
def quotient (d : Decimal) : ℕ × ℕ :=
  if 0 ≤ d.exponent then (d.mantissa.natAbs * 10 ^ d.exponent.toNat, 1)
  else (d.mantissa.natAbs, 10 ^ (-d.exponent).toNat)

variable (d : Decimal)

theorem abs_value : |d.value| = d.mantissa.natAbs * 10 ^ d.exponent := by
  have power_pos : (0 : ℚ) < 10 ^ d.exponent := by positivity
  rw [value, abs_mul, abs_of_pos power_pos, Nat.cast_natAbs, Int.cast_abs]

theorem value_neg_iff : d.value < 0 ↔ d.mantissa < 0 := by
  have power_pos : (0 : ℚ) < 10 ^ d.exponent := by positivity
  rw [value, mul_neg_iff]
  simp [power_pos, power_pos.le]

theorem quotient_ratio : (d.quotient.1 : ℚ) / d.quotient.2 = |d.value| := by
  rw [abs_value, quotient]
  split
  · next up =>
    obtain ⟨k, exponent⟩ := Int.eq_ofNat_of_zero_le up
    simp [exponent]
  · next down =>
    obtain ⟨k, exponent⟩ : ∃ k : ℕ, d.exponent = -k := ⟨(-d.exponent).toNat, by omega⟩
    simp [exponent, div_eq_mul_inv]

theorem quotient_ne_zero (notZero : d.mantissa ≠ 0) : d.quotient.1 ≠ 0 ∧ d.quotient.2 ≠ 0 := by
  have size_ne := Int.natAbs_ne_zero.mpr notZero
  unfold quotient
  split
  · exact ⟨Nat.mul_ne_zero size_ne (by positivity), Nat.one_ne_zero⟩
  · exact ⟨size_ne, by positivity⟩

/-- The number of digits before the point. -/
def width : ℤ := (Nat.toDigits 10 d.mantissa.natAbs).length + d.exponent

/-- A decimal that is zero, or has its first digit far behind the point, is held as zero. -/
theorem nearest_of_vanishing (vanishing : d.mantissa.natAbs = 0 ∨ d.width < -400) :
    d.nearest = .whole 0 :=
  if_pos vanishing

/-- Between the two bounds on the width, a whole binary value is held with the decimal's sign. -/
theorem nearest_of_wholeValue? (notZero : d.mantissa ≠ 0) (notTiny : -400 ≤ d.width)
    (narrow : d.width ≤ 400) {size : ℕ} (finite : ¬ Nat.pow 2 1024 ≤ size)
    (whole : wholeValue? (nearestBinary d.quotient.1 d.quotient.2).1
      (nearestBinary d.quotient.1 d.quotient.2).2 = some size) :
    d.nearest = .whole (if d.mantissa < 0 then -size else size) := by
  rw [width] at notTiny narrow
  have notVanishing : ¬ (d.mantissa.natAbs = 0 ∨
      (Nat.toDigits 10 d.mantissa.natAbs).length + d.exponent < -400) := by omega
  have notEndless : ¬ 400 < (Nat.toDigits 10 d.mantissa.natAbs).length + d.exponent := by omega
  have folded : (if 0 ≤ d.exponent then (d.mantissa.natAbs * Nat.pow 10 d.exponent.toNat, 1)
      else (d.mantissa.natAbs, Nat.pow 10 (-d.exponent).toNat)) = d.quotient := rfl
  simp only [nearest, if_neg notVanishing, if_neg notEndless, folded, whole, if_neg finite]

theorem abs_value_lt : |d.value| < 10 ^ d.width := by
  have digits := (Nat.length_toDigits_le_iff (n := d.mantissa.natAbs) (by decide : 1 < 10)
    Nat.length_toDigits_pos).mp le_rfl
  rw [abs_value, width, zpow_add₀ (by norm_num), zpow_natCast]
  gcongr
  exact_mod_cast digits

theorem le_abs_value (notZero : d.mantissa ≠ 0) : 10 ^ (d.width - 1) ≤ |d.value| := by
  have length_pos := Nat.length_toDigits_pos (b := 10) (n := d.mantissa.natAbs)
  have digits : 10 ^ ((Nat.toDigits 10 d.mantissa.natAbs).length - 1) ≤ d.mantissa.natAbs := by
    rcases Nat.eq_zero_or_pos ((Nat.toDigits 10 d.mantissa.natAbs).length - 1) with one | more
    · rw [one]
      omega
    · rw [← Nat.not_lt, ← Nat.length_toDigits_le_iff (by decide) more]
      omega
  rw [abs_value, width, show ((Nat.toDigits 10 d.mantissa.natAbs).length : ℤ) + d.exponent - 1 =
    ((Nat.toDigits 10 d.mantissa.natAbs).length - 1 : ℕ) + d.exponent by omega,
    zpow_add₀ (by norm_num), zpow_natCast]
  gcongr
  exact_mod_cast digits

variable {d} {n : ℤ} (nearest : NearestHeld d.value n)
include nearest

theorem nonneg_of_value_nonneg (value_nonneg : 0 ≤ d.value) : 0 ≤ n := by
  exact_mod_cast nearest.nonneg value_nonneg

theorem nonpos_of_value_nonpos (value_nonpos : d.value ≤ 0) : n ≤ 0 := by
  have opposite : (0 : ℚ) ≤ -n := nearest.neg.nonneg (neg_nonneg.mpr value_nonpos)
  exact_mod_cast neg_nonneg.mp opposite

/-- The signs of a decimal and of the whole number nearest to it can be left out. -/
theorem nearestHeld_abs : NearestHeld |d.value| n.natAbs := by
  rcases le_total 0 d.value with value_nonneg | value_nonpos
  · have n_nonneg : (0 : ℚ) ≤ n := by exact_mod_cast nonneg_of_value_nonneg nearest value_nonneg
    rwa [Nat.cast_natAbs, Int.cast_abs, abs_of_nonneg n_nonneg, abs_of_nonneg value_nonneg]
  · have n_nonpos : (n : ℚ) ≤ 0 := by exact_mod_cast nonpos_of_value_nonpos nearest value_nonpos
    rw [Nat.cast_natAbs, Int.cast_abs, abs_of_nonpos n_nonpos, abs_of_nonpos value_nonpos]
    exact nearest.neg

/-- Nothing but zero is near to a number without digits before the point. -/
theorem eq_zero_of_width_neg (small : d.width < 0) : n = 0 := by
  have value_le : |d.value| ≤ 1 / 10 :=
    calc |d.value| ≤ 10 ^ d.width := d.abs_value_lt.le
      _ ≤ 10 ^ (-1 : ℤ) := zpow_le_zpow_right₀ (by norm_num) (by omega)
      _ = 1 / 10 := by norm_num
  by_contra notZero
  have size : (1 : ℚ) ≤ n.natAbs := by exact_mod_cast Int.natAbs_pos.mpr notZero
  have zero : ((0 : ℕ) : ℚ) = n.natAbs := by
    apply (nearestHeld_abs nearest).eq_of_le (held_natCast (by decide))
    rw [Nat.cast_zero, sub_zero, abs_abs]
    exact le_trans (by linarith) (neg_le_abs _)
  rw [← zero, Nat.cast_zero] at size
  exact absurd size (by norm_num)

/-- A number of more than twenty digits is nearer to others than to one of sixty-three bits. -/
theorem width_le (notZero : d.mantissa ≠ 0) (inRange : n.natAbs < 2 ^ 63) : d.width ≤ 20 := by
  by_contra wide
  have le_value : (2 : ℚ) ^ (64 : ℤ) ≤ |d.value| :=
    calc (2 : ℚ) ^ (64 : ℤ) ≤ 10 ^ (20 : ℤ) := by norm_num
      _ ≤ 10 ^ (d.width - 1) := zpow_le_zpow_right₀ (by norm_num) (by omega)
      _ ≤ |d.value| := d.le_abs_value notZero
  have size : (n.natAbs : ℚ) < 2 ^ (64 : ℤ) := by
    exact_mod_cast Nat.lt_trans inRange (by decide : 2 ^ 63 < 2 ^ 64)
  have top : (2 : ℚ) ^ (64 : ℤ) = n.natAbs := by
    apply (nearestHeld_abs nearest).eq_of_le (held_two_pow 64 (by decide))
    rw [abs_of_nonneg (sub_nonneg.mpr le_value)]
    exact le_trans (by linarith) (le_abs_self _)
  exact absurd top.symm size.ne

/-- A decimal is held as the whole number that is nearest to it. -/
theorem nearest_of_nearestHeld (inRange : n.natAbs < 2 ^ 63) : d.nearest = .whole n := by
  by_cases mantissa_zero : d.mantissa = 0
  · have value_zero : d.value = 0 := by rw [value, mantissa_zero, Int.cast_zero, zero_mul]
    have n_nonneg := nonneg_of_value_nonneg nearest value_zero.ge
    have n_nonpos := nonpos_of_value_nonpos nearest value_zero.le
    rw [d.nearest_of_vanishing (.inl (Int.natAbs_eq_zero.mpr mantissa_zero)),
      le_antisymm n_nonpos n_nonneg]
  by_cases tiny : d.width < -400
  · rw [d.nearest_of_vanishing (.inr tiny), eq_zero_of_width_neg nearest (by omega)]
  have narrow := width_le nearest mantissa_zero inRange
  have magnitude := nearestHeld_abs nearest
  rw [← quotient_ratio] at magnitude
  obtain ⟨num_ne, den_ne⟩ := d.quotient_ne_zero mantissa_zero
  have finite : ∀ top, 63 ≤ top → ¬ Nat.pow 2 top ≤ n.natAbs := by
    intro top le
    have large : 2 ^ 63 ≤ Nat.pow 2 top := Nat.pow_le_pow_right (by decide) le
    omega
  rw [d.nearest_of_wholeValue? mantissa_zero (by omega) (by omega) (finite 1024 (by decide))
    (wholeValue?_nearestBinary num_ne den_ne magnitude), Nearest.whole.injEq]
  split
  · next negative =>
    have n_nonpos := nonpos_of_value_nonpos nearest (d.value_neg_iff.mpr negative).le
    omega
  · next notNegative =>
    have value_nonneg := not_lt.mp fun below => notNegative (d.value_neg_iff.mp below)
    have n_nonneg := nonneg_of_value_nonneg nearest value_nonneg
    omega

end Decimal

end StoryScript
