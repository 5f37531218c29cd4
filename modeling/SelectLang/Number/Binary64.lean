/-!
# Doubles

IEEE 754 numbers of 64 bits, kept as a sign and the 63 bits below it. Below
`infinityField` these bits, read as a natural number, count the finite
magnitudes from zero upwards; above it they are NaN.

Results:
* `ofBits_toBits`: the bits determine the number.
-/
namespace SelectLang

-- Powers are those of the core library, whatever other instances are in scope.
attribute [local instance (2000)] instPowNat

/-- A double: its sign, and its exponent and fraction fields as one number. -/
structure Binary64 where
  negative : Bool
  magnitude : Nat
  magnitude_lt : magnitude < 2 ^ (63 : Nat)
  deriving DecidableEq

namespace Binary64

/-- The fields of infinity: the largest exponent over an empty fraction. -/
def infinityField : Nat := 2047 * 2 ^ (52 : Nat)

/-- The fields of the NaN that a text stands for. -/
def nanField : Nat := infinityField + 2 ^ (51 : Nat)

def isNaN (x : Binary64) : Bool := infinityField < x.magnitude

def isInfinite (x : Binary64) : Bool := x.magnitude == infinityField

def isFinite (x : Binary64) : Bool := x.magnitude < infinityField

def infinity : Binary64 := ⟨false, infinityField, by decide⟩

def nan : Binary64 := ⟨false, nanField, by decide⟩

/-- The whole pattern of 64 bits. -/
def toBits (x : Binary64) : Nat := (if x.negative then 2 ^ (63 : Nat) else 0) + x.magnitude

/-- The double with the pattern given by the low 64 bits of `n`. -/
def ofBits (n : Nat) : Binary64 :=
  ⟨n / 2 ^ (63 : Nat) % 2 == 1, n % 2 ^ (63 : Nat), Nat.mod_lt _ (by decide)⟩

/-- Equality as numbers: NaN equals nothing, and the sign of a zero does not
count. -/
instance : BEq Binary64 where
  beq x y := !x.isNaN && !y.isNaN &&
    (x.magnitude == y.magnitude && (x.negative == y.negative || x.magnitude == 0))

/-- The significand of a finite double, as a whole number. -/
def significand (x : Binary64) : Nat :=
  if x.magnitude < 2 ^ (52 : Nat) then x.magnitude
  else 2 ^ (52 : Nat) + x.magnitude % 2 ^ (52 : Nat)

/-- The power of two that the significand of a finite double is scaled by. -/
def scale (x : Binary64) : Int :=
  if x.magnitude < 2 ^ (52 : Nat) then -1074 else (x.magnitude / 2 ^ (52 : Nat) : Nat) - 1075

/-- The numerator of the absolute value of a finite double. -/
def num (x : Binary64) : Nat := x.significand * 2 ^ x.scale.toNat

/-- The denominator of the absolute value of a finite double. -/
def den (x : Binary64) : Nat := 2 ^ (-x.scale).toNat

theorem den_pos (x : Binary64) : 0 < x.den := Nat.two_pow_pos _

theorem beq_self (x : Binary64) (h : x.isNaN = false) : (x == x) = true := by
  simp [BEq.beq, h]

theorem ofBits_toBits (x : Binary64) : ofBits x.toBits = x := by
  obtain ⟨s, m, h⟩ := x
  cases s <;>
    simp only [ofBits, toBits, mk.injEq, reduceIte, Bool.false_eq_true, beq_eq_false_iff_ne,
      beq_iff_eq, ne_eq] <;>
    omega

end Binary64

end SelectLang
