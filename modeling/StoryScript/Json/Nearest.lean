import StoryScript.Json.Basic

/-!
# Nearest binary numbers

A number with a fraction or an exponent is held with 53 significant bits: it stands
for the nearest multiple of a power of two, and a tie goes to the even one. The
exponent of that power is at least −1074. What matters here is whether the number
held is an integer, and which.
-/

namespace StoryScript

/-- The quotient rounded to the nearest integer, a tie to the even one. -/
def roundedQuotient (num den : Nat) : Nat :=
  let q := num / den
  let r := num % den
  if 2 * r < den ∨ (2 * r = den ∧ q % 2 = 0) then q else q + 1

def scaled (num den : Nat) (power : Int) : Nat × Nat :=
  if 0 ≤ power then (num * Nat.pow 2 power.toNat, den)
  else (num, den * Nat.pow 2 (-power).toNat)

/-- The significand and the exponent of the number nearest to a positive quotient. -/
def nearestBinary (num den : Nat) : Nat × Int :=
  let guess : Int := (num.log2 : Int) - den.log2 - 52
  let (n, d) := scaled num den (-guess)
  let power := max (if n / d < Nat.pow 2 52 then guess - 1 else guess) (-1074)
  let (n, d) := scaled num den (-power)
  (roundedQuotient n d, power)

def wholeValue? (significand : Nat) (power : Int) : Option Nat :=
  if 0 ≤ power then some (significand * Nat.pow 2 power.toNat)
  else
    let unit := Nat.pow 2 (-power).toNat
    if significand % unit = 0 then some (significand / unit) else none

inductive Nearest where
  | infinite
  | fractional
  | whole (value : Int)
  deriving DecidableEq, Repr

namespace Decimal

/-- A number too large to be held is infinite, and one too small to tell from zero is zero. -/
def nearest (d : Decimal) : Nearest :=
  let size := d.mantissa.natAbs
  let width : Int := (Nat.toDigits 10 size).length
  if size = 0 ∨ width + d.exponent < -400 then .whole 0
  else if 400 < width + d.exponent then .infinite
  else
    let (num, den) :=
      if 0 ≤ d.exponent then (size * Nat.pow 10 d.exponent.toNat, 1)
      else (size, Nat.pow 10 (-d.exponent).toNat)
    let (significand, power) := nearestBinary num den
    match wholeValue? significand power with
    | some n =>
      if Nat.pow 2 1024 ≤ n then .infinite else .whole (if d.mantissa < 0 then -n else n)
    | none => .fractional

end Decimal

end StoryScript
