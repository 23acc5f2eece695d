import CommitLint.Double.Basic

/-!
# The shortest decimal of a number

The decimals that stand for a positive number form an interval, from halfway to
the number below to halfway to the number above.  Its ends belong to it if the
significand is even.  Below a power of two the numbers lie twice as dense, so
there the lower end is half as far away.

Of the decimals in the interval those with the fewest digits are taken, and of
these the nearest; of two that are equally near, the even one.  If a decimal
with a given last place lies in the interval, so does one of the two around the
number itself, so only these two are tried for each count of digits.

`standsFor_shortest` says that what is taken does stand for the number.
-/

namespace CommitLint.Double

/-- The lower end of the interval, in quarters of the last place. -/
def lowerEnd (m : Nat) (e : Int) : Nat :=
  if m == Nat.pow 2 52 && minExponent < e then 4 * m - 1 else 4 * m - 2

/-- The upper end of the interval, in quarters of the last place. -/
def upperEnd (m : Nat) : Nat := 4 * m + 2

/-- Whether `d` times ten to the `p` stands for `m` times two to the `e`. -/
def standsFor (m : Nat) (e : Int) (d : Nat) (p : Int) : Bool :=
  let x := d * power 10 p * power 2 (2 - e)
  let unit := power 10 (-p) * power 2 (e - 2)
  if m % 2 = 0 then lowerEnd m e * unit ≤ x && x ≤ upperEnd m * unit
  else lowerEnd m e * unit < x && x < upperEnd m * unit

/-- The power of ten just above a positive number. -/
def scale (m : Nat) (e : Int) : Int :=
  let num := m * power 2 e
  let den := power 2 (-e)
  if den ≤ num then digitCount (num / den) else 1 - (digitCount ((den - 1) / num) : Int)

/-- A decimal with the last place `p` that stands for a positive number. -/
def decimalAt? (m : Nat) (e p : Int) : Option (Nat × Int) :=
  let num := m * power 2 e * power 10 (-p)
  let den := power 2 (-e) * power 10 p
  let d := num / den
  match standsFor m e d p, standsFor m e (d + 1) p with
  | false, false => none
  | true, false => some (d, p)
  | false, true => some (d + 1, p)
  | true, true => some (roundDiv num den, p)

/-- All digits of a positive number. -/
def exactDecimal (m : Nat) (e : Int) : Nat × Int :=
  (m * power 2 e * power 5 (-e), if e < 0 then e else 0)

/-- The shortest decimal of a positive number, as a coefficient and a power of
ten.  Seventeen digits are always enough; were they not, all digits would do. -/
def shortest (m : Nat) (e : Int) : Nat × Int :=
  ((List.range 17).findSome? fun (n : Nat) =>
    decimalAt? m e (scale m e - (n + 1 : Nat))).getD (exactDecimal m e)

/-! ## Small facts -/

/-- A decimal found at a last place stands for the number. -/
theorem standsFor_of_decimalAt? {m : Nat} {e p : Int} {d : Nat × Int}
    (h : decimalAt? m e p = some d) : standsFor m e d.1 d.2 = true := by
  unfold decimalAt? at h
  dsimp only at h
  split at h
  · cases h
  · cases h; assumption
  · cases h; assumption
  · cases h
    unfold roundDiv
    dsimp only
    split <;> assumption

/-- A decimal of exactly the number's size stands for it. -/
theorem standsFor_of_eq {m : Nat} {e : Int} {d : Nat} {p : Int} (hm : 0 < m)
    (h : d * power 10 p * power 2 (2 - e) = 4 * m * (power 10 (-p) * power 2 (e - 2))) :
    standsFor m e d p = true := by
  have hunit : 0 < power 10 (-p) * power 2 (e - 2) :=
    Nat.mul_pos (Nat.pow_pos (by decide)) (Nat.pow_pos (by decide))
  have hlow : lowerEnd m e < 4 * m := by
    unfold lowerEnd
    split <;> omega
  have hhigh : 4 * m < upperEnd m := Nat.lt_add_of_pos_right (by decide)
  have hlow' := Nat.mul_lt_mul_of_pos_right hlow hunit
  have hhigh' := Nat.mul_lt_mul_of_pos_right hhigh hunit
  simp only [standsFor, h]
  split
  · simp [Nat.le_of_lt hlow', Nat.le_of_lt hhigh']
  · simp [hlow', hhigh']

/-- All digits of a number stand for it. -/
theorem standsFor_exactDecimal {m : Nat} (hm : 0 < m) (e : Int) :
    standsFor m e (exactDecimal m e).1 (exactDecimal m e).2 = true := by
  apply standsFor_of_eq hm
  unfold exactDecimal power
  by_cases he : e < 0
  · obtain ⟨k, rfl⟩ : ∃ k : Nat, e = -k := ⟨e.natAbs, by omega⟩
    have h1 : (-(k : Int)).toNat = 0 := by omega
    have h2 : (-(-(k : Int))).toNat = k := by omega
    have h3 : (2 - -(k : Int)).toNat = k + 2 := by omega
    have h4 : (-(k : Int) - 2).toNat = 0 := by omega
    simp only [if_pos he, h1, h2, h3, h4, Nat.pow_eq, Nat.pow_zero, Nat.mul_one]
    rw [show 10 = 5 * 2 from rfl, show 4 = 2 * 2 from rfl, Nat.mul_pow, Nat.pow_succ,
      Nat.pow_succ]
    ac_rfl
  · obtain ⟨k, rfl⟩ : ∃ k : Nat, e = k := ⟨e.toNat, by omega⟩
    have h1 : (-(k : Int)).toNat = 0 := by omega
    simp only [if_neg he, h1, Int.toNat_natCast, Int.toNat_zero, Int.neg_zero, Nat.pow_eq,
      Nat.pow_zero, Nat.mul_one, Nat.one_mul]
    match k with
    | 0 => rw [show (2 - ((0 : Nat) : Int)).toNat = 2 from rfl]; simp; omega
    | 1 => simp; omega
    | k + 2 =>
      have h2 : (2 - ((k + 2 : Nat) : Int)).toNat = 0 := by omega
      have h3 : (((k + 2 : Nat) : Int) - 2).toNat = k := by omega
      rw [h2, h3, show 4 = 2 * 2 from rfl, Nat.pow_succ, Nat.pow_succ]
      ac_rfl

/-- The shortest decimal of a positive number stands for it. -/
theorem standsFor_shortest {m : Nat} (hm : 0 < m) (e : Int) :
    standsFor m e (shortest m e).1 (shortest m e).2 = true := by
  unfold shortest
  generalize hs : List.findSome? _ _ = s
  cases s with
  | none => exact standsFor_exactDecimal hm e
  | some d =>
    obtain ⟨n, _, hn⟩ := List.exists_of_findSome?_eq_some hs
    exact standsFor_of_decimalAt? hn

end CommitLint.Double
