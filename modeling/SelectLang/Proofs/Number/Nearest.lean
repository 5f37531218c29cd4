import SelectLang.Number.Rounding
import Mathlib.Algebra.Order.Field.Power
import Mathlib.Data.Int.Log
import Mathlib.Data.Rat.Floor
import Mathlib.Tactic.Ring

/-!
# The nearest double as a function of the value

Rounding works on a numerator and a denominator. Only the fraction counts: equal
fractions round to the same double, and the fraction of a finite double rounds to
that double.

Results:
* `floorLog2_eq_log`: the exponent that rounding starts from is the binary
  logarithm of the fraction.
* `nearestField_congr`: equal fractions have the same nearest double.
* `nearestField_self`: a finite double is the one nearest to itself.
-/
namespace SelectLang

/-! ## The binary logarithm of a fraction -/

theorem two_zpow_eq (k : Int) : (2 : ℚ) ^ k = 2 ^ k.toNat / 2 ^ (-k).toNat := by
  have parts : k = (k.toNat : Int) - ((-k).toNat : Int) := by omega
  conv_lhs => rw [parts]
  rw [zpow_sub₀ (by norm_num), zpow_natCast, zpow_natCast]

/-- The comparison that is made on natural numbers is the one of the fraction
with the power of two. -/
theorem scaled_le_iff (num : Nat) {den : Nat} (h : 0 < den) (k : Int) :
    den * 2 ^ k.toNat ≤ num * 2 ^ (-k).toNat ↔ (2 : ℚ) ^ k ≤ num / den := by
  have den_pos : (0 : ℚ) < den := by exact_mod_cast h
  have two_pos : (0 : ℚ) < 2 ^ (-k).toNat := by positivity
  rw [two_zpow_eq, div_le_div_iff₀ two_pos den_pos, mul_comm]
  exact_mod_cast Iff.rfl

theorem log_eq {q : ℚ} (pos : 0 < q) {k : Int} (low : (2 : ℚ) ^ k ≤ q)
    (high : q < (2 : ℚ) ^ (k + 1)) : Int.log 2 q = k := by
  have h1 : k ≤ Int.log 2 q := (Int.zpow_le_iff_le_log (by decide) pos).mp low
  have h2 : Int.log 2 q < k + 1 := (Int.lt_zpow_iff_log_lt (by decide) pos).mp high
  omega

theorem two_zpow_add (n : Nat) (k : Int) :
    (2 : ℚ) ^ ((n : Int) + k) = ((2 ^ n : Nat) : ℚ) * 2 ^ k := by
  rw [zpow_add₀ (by norm_num), zpow_natCast]
  norm_cast

theorem log_lt_of_lt {m n : Nat} (pos : 0 < m) (h : m < 2 ^ n) (k : Int) :
    Int.log 2 ((m : ℚ) * 2 ^ k) < n + k := by
  have two_pos : (0 : ℚ) < (2 : ℚ) ^ k := by positivity
  have scaled_pos : (0 : ℚ) < (m : ℚ) * 2 ^ k := by positivity
  apply (Int.lt_zpow_iff_log_lt (by decide) scaled_pos).mp
  have scaled := mul_lt_mul_of_pos_right (Nat.cast_lt.mpr h) two_pos
  rw [← two_zpow_add] at scaled
  exact_mod_cast scaled

theorem le_log_of_le {m n : Nat} (h : 2 ^ n ≤ m) (k : Int) :
    n + k ≤ Int.log 2 ((m : ℚ) * 2 ^ k) := by
  have pos : 0 < m := Nat.lt_of_lt_of_le (Nat.two_pow_pos n) h
  have two_pos : (0 : ℚ) < (2 : ℚ) ^ k := by positivity
  have scaled_pos : (0 : ℚ) < (m : ℚ) * 2 ^ k := by positivity
  apply (Int.zpow_le_iff_le_log (by decide) scaled_pos).mp
  have scaled := mul_le_mul_of_nonneg_right (Nat.cast_le.mpr h) two_pos.le
  rw [← two_zpow_add] at scaled
  exact_mod_cast scaled

theorem log2_bounds {n : Nat} (h : 0 < n) :
    (2 : ℚ) ^ (n.log2 : Int) ≤ n ∧ (n : ℚ) < (2 : ℚ) ^ ((n.log2 : Int) + 1) := by
  have power (k : Nat) : (2 : ℚ) ^ (k : Int) = ((2 ^ k : Nat) : ℚ) := by
    rw [zpow_natCast]
    norm_cast
  have low : (2 : ℚ) ^ (n.log2 : Int) ≤ n := by
    rw [power]
    exact_mod_cast Nat.log2_self_le (by omega)
  have high : (n : ℚ) < (2 : ℚ) ^ ((n.log2 + 1 : Nat) : Int) := by
    rw [power]
    exact_mod_cast Nat.lt_log2_self
  exact ⟨low, by exact_mod_cast high⟩

/-- The lengths of the numerator and of the denominator leave two candidates for
the logarithm. -/
theorem log2_sub_bounds {num den : Nat} (hnum : 0 < num) (hden : 0 < den) :
    (2 : ℚ) ^ ((num.log2 : Int) - den.log2 - 1) ≤ num / den ∧
      (num : ℚ) / den < (2 : ℚ) ^ ((num.log2 : Int) - den.log2 + 1) := by
  obtain ⟨num_low, num_high⟩ := log2_bounds hnum
  obtain ⟨den_low, den_high⟩ := log2_bounds hden
  have den_pos : (0 : ℚ) < den := by exact_mod_cast hden
  refine ⟨?_, ?_⟩
  · rw [le_div_iff₀ den_pos]
    calc (2 : ℚ) ^ ((num.log2 : Int) - den.log2 - 1) * den
        ≤ (2 : ℚ) ^ ((num.log2 : Int) - den.log2 - 1) * 2 ^ ((den.log2 : Int) + 1) := by
          gcongr
      _ = (2 : ℚ) ^ (num.log2 : Int) := by
          rw [← zpow_add₀ (by norm_num)]; congr 1; omega
      _ ≤ num := num_low
  · rw [div_lt_iff₀ den_pos]
    calc (num : ℚ) < (2 : ℚ) ^ ((num.log2 : Int) + 1) := num_high
      _ = (2 : ℚ) ^ ((num.log2 : Int) - den.log2 + 1) * 2 ^ (den.log2 : Int) := by
          rw [← zpow_add₀ (by norm_num)]; congr 1; omega
      _ ≤ (2 : ℚ) ^ ((num.log2 : Int) - den.log2 + 1) * den := by gcongr

theorem floorLog2_eq_log {num den : Nat} (hnum : 0 < num) (hden : 0 < den) :
    floorLog2 num den = Int.log 2 ((num : ℚ) / den) := by
  have pos : (0 : ℚ) < num / den := by positivity
  obtain ⟨low, high⟩ := log2_sub_bounds hnum hden
  simp only [floorLog2, scaled_le_iff num hden]
  split
  · next reached => exact (log_eq pos reached high).symm
  · next missed =>
    refine (log_eq pos low ?_).symm
    rw [Int.sub_add_cancel]
    exact not_le.mp missed

/-! ## Equal fractions -/

theorem roundHalfEven_mul_right (num den : Nat) {c : Nat} (h : 0 < c) :
    roundHalfEven (num * c) (den * c) = roundHalfEven num den := by
  simp only [roundHalfEven, Nat.mul_div_mul_right _ _ h, Nat.mul_mod_mul_right, ← Nat.mul_assoc,
    Nat.mul_lt_mul_right h]

theorem roundHalfEven_congr {num den num' den' : Nat} (h : 0 < den) (h' : 0 < den')
    (same : num * den' = num' * den) : roundHalfEven num den = roundHalfEven num' den' := by
  rw [← roundHalfEven_mul_right num den h', same, Nat.mul_comm den den',
    roundHalfEven_mul_right num' den' h]

theorem scaled_congr {num den num' den' : Nat} (same : num * den' = num' * den) (a b : Nat) :
    num * a * (den' * b) = num' * a * (den * b) := by
  calc num * a * (den' * b) = num * den' * (a * b) := by ring
    _ = num' * den * (a * b) := by rw [same]
    _ = num' * a * (den * b) := by ring

namespace Binary64

theorem nearestField_congr {num den num' den' : Nat} (h : 0 < den) (h' : 0 < den')
    (same : num * den' = num' * den) : nearestField num den = nearestField num' den' := by
  have zero_iff : num = 0 ↔ num' = 0 := by
    refine ⟨fun e => ?_, fun e => ?_⟩ <;> rw [e, Nat.zero_mul] at same
    · exact (Nat.mul_eq_zero.mp same.symm).resolve_right (by omega)
    · exact (Nat.mul_eq_zero.mp same).resolve_right (by omega)
  unfold nearestField
  by_cases hnum : num = 0
  · rw [if_pos hnum, if_pos (zero_iff.mp hnum)]
  · have hnum' : num' ≠ 0 := fun e => hnum (zero_iff.mpr e)
    have value : (num : ℚ) / den = num' / den' := by
      have den_pos : (den : ℚ) ≠ 0 := by exact_mod_cast (show den ≠ 0 by omega)
      have den_pos' : (den' : ℚ) ≠ 0 := by exact_mod_cast (show den' ≠ 0 by omega)
      rw [div_eq_div_iff den_pos den_pos']
      exact_mod_cast same
    have level : floorLog2 num den = floorLog2 num' den' := by
      rw [floorLog2_eq_log (by omega) h, floorLog2_eq_log (by omega) h', value]
    rw [if_neg hnum, if_neg hnum', level]
    dsimp only
    rw [roundHalfEven_congr (by positivity) (by positivity) (scaled_congr same _ _)]

/-! ## The fraction of a double -/

theorem value_eq (x : Binary64) : (x.num : ℚ) / x.den = x.significand * (2 : ℚ) ^ x.scale := by
  rw [two_zpow_eq, num, den]
  push_cast
  ring

theorem significand_pos {x : Binary64} (h : x.magnitude ≠ 0) : 0 < x.significand := by
  unfold significand
  split <;> omega

theorem num_pos {x : Binary64} (h : x.magnitude ≠ 0) : 0 < x.num :=
  Nat.mul_pos (significand_pos h) (Nat.two_pow_pos _)

theorem significand_lt (x : Binary64) : x.significand < 2 ^ 53 := by
  unfold significand
  split <;> omega

theorem scale_low (x : Binary64) : -1074 ≤ x.scale := by
  unfold scale
  split <;> omega

/-- A double is rounded on its own scale. -/
theorem level_eq {x : Binary64} (h : x.magnitude ≠ 0) :
    max (-1074) (floorLog2 x.num x.den - 52) = x.scale := by
  have high := log_lt_of_lt (significand_pos h) x.significand_lt x.scale
  rw [floorLog2_eq_log (num_pos h) x.den_pos, value_eq]
  by_cases small : x.magnitude < 2 ^ 52
  · have least : x.scale = -1074 := if_pos small
    omega
  · have large : 2 ^ 52 ≤ x.significand := by
      rw [significand, if_neg small]
      exact Nat.le_add_right ..
    have low := le_log_of_le large x.scale
    have above := x.scale_low
    omega

/-- A finite double is the one nearest to itself. -/
theorem nearestField_self {x : Binary64} (h : x.isFinite) :
    nearestField x.num x.den = x.magnitude := by
  have below : x.magnitude < infinityField := by simpa [isFinite] using h
  by_cases zero : x.magnitude = 0
  · have : x.num = 0 := by simp [num, significand, zero]
    rw [nearestField, if_pos this, zero]
  · have exact_quotient : roundHalfEven (x.num * 2 ^ (-x.scale).toNat) (x.den * 2 ^ x.scale.toNat) =
        x.significand := by
      have whole : roundHalfEven x.significand 1 = x.significand := by
        simp [roundHalfEven, Nat.mod_one]
      rw [← whole]
      refine roundHalfEven_congr (Nat.mul_pos x.den_pos (Nat.two_pow_pos _)) (by decide) ?_
      rw [num, den]
      ring
    rw [nearestField, if_neg (num_pos zero).ne']
    simp only [level_eq zero, exact_quotient]
    unfold infinityField at below ⊢
    unfold scale significand
    split <;> omega

end Binary64

end SelectLang
