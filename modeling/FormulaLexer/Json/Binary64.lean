/-!
The numbers of the binary64 format that are nearest to decimal ones, in exact arithmetic.
Main statement: rounding a quotient moves it by half a unit at most.
-/

namespace FormulaLexer

/-- A number of the format that is not negative: `significand` times two to the `exponent`,
or infinity. -/
inductive Binary64 where
  | finite (significand : Nat) (exponent : Int)
  | infinite
  deriving DecidableEq, Repr

namespace Binary64

/-- The quotient of two numbers, rounded to the nearest integer. From the middle between two
integers it goes to the even one. -/
def roundDiv (num den : Nat) : Nat :=
  let quotient := num / den
  let twice := 2 * (num % den)
  if twice < den || twice = den && quotient % 2 = 0 then quotient else quotient + 1

theorem roundDiv_le (num : Nat) {den : Nat} (h : 0 < den) :
    2 * (roundDiv num den * den) ≤ 2 * num + den := by
  have hdiv := Nat.div_add_mod num den
  have hmod := Nat.mod_lt num h
  simp only [Nat.mul_comm den] at hdiv
  simp only [roundDiv]
  split
  · omega
  · next hround =>
      simp only [Bool.or_eq_true, decide_eq_true_eq, not_or] at hround
      rw [Nat.add_mul]
      omega

theorem le_roundDiv (num : Nat) {den : Nat} (h : 0 < den) :
    2 * num ≤ 2 * (roundDiv num den * den) + den := by
  have hdiv := Nat.div_add_mod num den
  have hmod := Nat.mod_lt num h
  simp only [Nat.mul_comm den] at hdiv
  simp only [roundDiv]
  split
  · next hround =>
      simp only [Bool.or_eq_true, Bool.and_eq_true, decide_eq_true_eq] at hround
      omega
  · rw [Nat.add_mul]
    omega

/-- The bits of a significand. -/
def precision : Nat := 53

def leastExponent : Int := -1074

/-- The numbers from two to this power on are infinite. -/
def infinityExponent : Nat := 1024

/-- A number times two to a power, as a fraction. -/
def scale (num den : Nat) (power : Int) : Nat × Nat :=
  if 0 ≤ power then (num * Nat.pow 2 power.toNat, den)
  else (num, den * Nat.pow 2 (-power).toNat)

/-- The number nearest to a positive fraction. The exponent is the least one with which the
significand fits into its bits. -/
def ofFraction (num den : Nat) : Binary64 :=
  let estimate : Int := (num.log2 : Int) - den.log2 - precision
  let (n, d) := scale num den (-estimate)
  let exponent := max leastExponent
    (if n < Nat.pow 2 precision * d then estimate else estimate + 1)
  let (n, d) := scale num den (-exponent)
  let significand := roundDiv n d
  if 0 ≤ exponent && Nat.pow 2 infinityExponent ≤ significand * Nat.pow 2 exponent.toNat then
    infinite
  else finite significand exponent

/-- The number nearest to `mantissa` times ten to the `exponent`. Far beyond both ends of the
format the power of ten is left alone. -/
def ofDecimal (mantissa : Nat) (exponent : Int) : Binary64 :=
  if mantissa = 0 || mantissa.log2 + 1 + 3 * exponent < leastExponent then finite 0 leastExponent
  else if exponent < 0 then ofFraction mantissa (Nat.pow 10 (-exponent).toNat)
  else if infinityExponent ≤ mantissa.log2 + 3 * exponent then infinite
  else ofFraction (mantissa * Nat.pow 10 exponent.toNat) 1

/-- The natural number that a finite number is, if it has no fraction. -/
def whole? (significand : Nat) (exponent : Int) : Option Nat :=
  let (num, den) := scale significand 1 exponent
  if num % den = 0 then some (num / den) else none

end Binary64

end FormulaLexer
