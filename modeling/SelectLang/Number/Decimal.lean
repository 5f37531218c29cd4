/-!
# Decimals

A decimal is a natural coefficient times a power of ten. It stands between the
text of a number and its double: texts are read into decimals, and the digits of
a double are chosen as a decimal.

Results:
* `den_pos`: the fraction of a decimal is well formed.
* `trim_num_mul_den`: dropping trailing zeros keeps the value.
-/
namespace SelectLang

-- Powers are those of the core library, whatever other instances are in scope.
attribute [local instance (2000)] instPowNat

/-- The number `coefficient * 10 ^ exponent`. -/
structure Decimal where
  coefficient : Nat
  exponent : Int
  deriving DecidableEq

namespace Decimal

/-- The numerator of the decimal as a fraction. -/
def num (d : Decimal) : Nat := d.coefficient * 10 ^ d.exponent.toNat

/-- The denominator of the decimal as a fraction. -/
def den (d : Decimal) : Nat := 10 ^ (-d.exponent).toNat

theorem den_pos (d : Decimal) : 0 < d.den := Nat.pow_pos (by decide)

/-- The decimal digits of the coefficient, the most significant first. -/
def digits (d : Decimal) : List Char := Nat.toDigits 10 d.coefficient

/-- The exponent of ten that the leading digit stands for. -/
def leadingExponent (d : Decimal) : Int := d.exponent + d.digits.length - 1

/-- Drops one trailing zero of a coefficient as long as `fuel` lasts and there
is one. -/
def trimFrom : Nat → Nat → Int → Decimal
  | 0, c, e => ⟨c, e⟩
  | fuel + 1, c, e => if c ≠ 0 ∧ c % 10 = 0 then trimFrom fuel (c / 10) (e + 1) else ⟨c, e⟩

/-- The same number without trailing zeros in its coefficient. -/
def trim (d : Decimal) : Decimal := trimFrom d.digits.length d.coefficient d.exponent

/-- Moving one factor of ten from the coefficient to the exponent keeps the
value. -/
theorem num_mul_den_succ (c : Nat) (e : Int) :
    num ⟨c, e + 1⟩ * den ⟨10 * c, e⟩ = num ⟨10 * c, e⟩ * den ⟨c, e + 1⟩ := by
  simp only [num, den]
  by_cases h : 0 ≤ e
  · have h1 : (e + 1).toNat = e.toNat + 1 := by omega
    have h2 : (-e).toNat = 0 := by omega
    have h3 : (-(e + 1)).toNat = 0 := by omega
    simp only [h1, h2, h3, Nat.pow_succ, Nat.pow_zero, Nat.mul_assoc, Nat.mul_comm,
      Nat.mul_left_comm]
  · have h1 : (e + 1).toNat = 0 := by omega
    have h2 : (-e).toNat = (-(e + 1)).toNat + 1 := by omega
    have h3 : e.toNat = 0 := by omega
    simp only [h1, h2, h3, Nat.pow_succ, Nat.pow_zero, Nat.one_mul, Nat.mul_assoc, Nat.mul_comm,
      Nat.mul_left_comm]

theorem trimFrom_num_mul_den (fuel c : Nat) (e : Int) :
    (trimFrom fuel c e).num * den ⟨c, e⟩ = num ⟨c, e⟩ * (trimFrom fuel c e).den := by
  induction fuel generalizing c e with
  | zero => rfl
  | succ fuel ih =>
    rw [trimFrom]
    split
    · next h =>
      have hc : 10 * (c / 10) = c := by omega
      have step := num_mul_den_succ (c / 10) e
      rw [hc] at step
      have rest := ih (c / 10) (e + 1)
      have pos : 0 < den ⟨c / 10, e + 1⟩ := den_pos _
      generalize trimFrom fuel (c / 10) (e + 1) = d at rest ⊢
      apply Nat.eq_of_mul_eq_mul_right pos
      calc d.num * den ⟨c, e⟩ * den ⟨c / 10, e + 1⟩
          = d.num * den ⟨c / 10, e + 1⟩ * den ⟨c, e⟩ := Nat.mul_right_comm ..
        _ = num ⟨c / 10, e + 1⟩ * d.den * den ⟨c, e⟩ := by rw [rest]
        _ = num ⟨c / 10, e + 1⟩ * den ⟨c, e⟩ * d.den := Nat.mul_right_comm ..
        _ = num ⟨c, e⟩ * den ⟨c / 10, e + 1⟩ * d.den := by rw [step]
        _ = num ⟨c, e⟩ * d.den * den ⟨c / 10, e + 1⟩ := Nat.mul_right_comm ..
    · rfl

theorem trim_num_mul_den (d : Decimal) : d.trim.num * d.den = d.num * d.trim.den :=
  trimFrom_num_mul_den ..

end Decimal

end SelectLang
