import CommitLint.Text.Numeral

/-!
# Double-precision numbers

A finite number of double precision is a significand of at most 53 bits times a
power of two.  A decimal fraction stands for the nearest one of them; of two
that are equally near it stands for the one with the even significand.  What
reaches half a step beyond the greatest one stands for infinity.

Everything is worked out with natural numbers, so that nothing is rounded but
the result; `roundDiv_near` says by how much.
-/

namespace CommitLint

/-- A double-precision number. -/
inductive Double where
  /-- `significand` times two to the `exponent`.  The significand has 53 bits,
  or fewer if the exponent is the least one. -/
  | finite (negative : Bool) (significand : Nat) (exponent : Int)
  | infinite (negative : Bool)
  | notANumber
  deriving DecidableEq, Repr

namespace Double

open Text

/-- The part of a power that multiplies: `base` to the `e` is
`power base e / power base (-e)`, because one of the two is always one. -/
def power (base : Nat) (e : Int) : Nat := Nat.pow base e.toNat

/-- A quotient, rounded to the nearest natural number; a half goes to the even
neighbour. -/
def roundDiv (num den : Nat) : Nat :=
  let q := num / den
  let r := 2 * (num % den)
  if den < r || (r == den && q % 2 == 1) then q + 1 else q

/-- The exponent of the least positive number. -/
def minExponent : Int := -1074

/-- The exponent of the greatest number. -/
def maxExponent : Int := 971

/-- Zero with a sign. -/
def zero (negative : Bool) : Double := finite negative 0 minExponent

/-- The number nearest to a positive quotient.  The exponent is the one that
leaves 53 bits before the point, as far as there is such an exponent. -/
def ofQuotient (negative : Bool) (num den : Nat) : Double :=
  let size : Int := (num.log2 : Int) - den.log2
  let reaches := den * power 2 size ≤ num * power 2 (-size)
  let e := max minExponent (if reaches then size - 52 else size - 53)
  let m := roundDiv (num * power 2 (-e)) (den * power 2 e)
  let full := m == Nat.pow 2 53
  let e := if full then e + 1 else e
  if maxExponent < e then infinite negative
  else finite negative (if full then Nat.pow 2 52 else m) e

/-- The number of decimal digits of a natural number; zero has none. -/
def digitCount (n : Nat) : Nat := if n = 0 then 0 else (decimal n).length

/-- The number nearest to `coefficient` times ten to the `exponent`.  What lies
far beyond the greatest or the least number is told by its digits alone. -/
def ofDecimal (negative : Bool) (coefficient : Nat) (exponent : Int) : Double :=
  let size := (digitCount coefficient : Int) + exponent
  if coefficient = 0 || size < -400 then zero negative
  else if 400 < size then infinite negative
  else ofQuotient negative (coefficient * power 10 exponent) (power 10 (-exponent))

/-- Zero of either sign. -/
def isZero : Double → Bool
  | finite _ m _ => m == 0
  | _ => false

/-- A number, and neither infinity nor what is no number. -/
def isFinite : Double → Bool
  | finite .. => true
  | _ => false

/-- The whole number that a number is equal to, if there is one. -/
def toInt? : Double → Option Int
  | finite negative m e =>
    let num := m * power 2 e
    let den := power 2 (-e)
    if num % den = 0 then
      some (if negative then -(num / den : Nat) else (num / den : Nat))
    else none
  | _ => none

/-! ## Small facts -/

/-- Rounding moves a quotient by half a unit at most. -/
theorem roundDiv_near (num : Nat) {den : Nat} (h : 0 < den) :
    2 * num ≤ 2 * (roundDiv num den * den) + den ∧
      2 * (roundDiv num den * den) ≤ 2 * num + den := by
  have hdiv := Nat.div_add_mod' num den
  have hmod := Nat.mod_lt num h
  unfold roundDiv
  dsimp only
  split
  next hup =>
    rw [Nat.add_mul, Nat.one_mul]
    simp only [Bool.or_eq_true, decide_eq_true_eq, Bool.and_eq_true, beq_iff_eq] at hup
    omega
  next hdown =>
    simp only [Bool.or_eq_true, decide_eq_true_eq, Bool.and_eq_true, beq_iff_eq, not_or] at hdown
    omega

end Double

end CommitLint
