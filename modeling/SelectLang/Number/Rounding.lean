import SelectLang.Number.Binary64
import SelectLang.Number.Decimal

/-!
# Rounding to doubles

The double nearest to a fraction, a half going to the even neighbour. A
magnitude past the range becomes infinity, and one below half the least positive
double becomes zero.

Results:
* `nearestField_lt`: the fields of the result fit a double, and it is no NaN.
-/
namespace SelectLang

-- Powers are those of the core library, whatever other instances are in scope.
attribute [local instance (2000)] instPowNat

/-- The whole number nearest to `num / den`, a half going to the even one. -/
def roundHalfEven (num den : Nat) : Nat :=
  let q := num / den
  let r := num % den
  if 2 * r < den then q else if den < 2 * r then q + 1 else q + q % 2

/-- The greatest `k` with `2 ^ k ≤ num / den`, for a positive fraction. -/
def floorLog2 (num den : Nat) : Int :=
  let k : Int := (num.log2 : Int) - den.log2
  if den * 2 ^ k.toNat ≤ num * 2 ^ (-k).toNat then k else k - 1

namespace Binary64

/-- The exponent and fraction fields of the double nearest to `num / den`:
fifty-three bits from the leading one on, but none below the least scale. -/
def nearestField (num den : Nat) : Nat :=
  if num = 0 then 0
  else
    let scale := max (-1074) (floorLog2 num den - 52)
    let significand := roundHalfEven (num * 2 ^ (-scale).toNat) (den * 2 ^ scale.toNat)
    min ((scale + 1074).toNat * 2 ^ (52 : Nat) + significand) infinityField

theorem nearestField_le (num den : Nat) : nearestField num den ≤ infinityField := by
  unfold nearestField
  split
  · exact Nat.zero_le _
  · exact Nat.min_le_right ..

theorem nearestField_lt (num den : Nat) : nearestField num den < 2 ^ (63 : Nat) :=
  Nat.lt_of_le_of_lt (nearestField_le num den) (by decide)

def ofDecimal (negative : Bool) (d : Decimal) : Binary64 :=
  ⟨negative, nearestField d.num d.den, nearestField_lt ..⟩

theorem isNaN_ofDecimal (negative : Bool) (d : Decimal) : (ofDecimal negative d).isNaN = false :=
  decide_eq_false (Nat.not_lt.mpr (nearestField_le ..))

end Binary64

end SelectLang
