import SelectLang.Number.Rounding

/-!
# Shortest digits

The decimal that a double is written with: the fewest digits that read back as
the double, and of the decimals with that many digits the one nearest to it.
Digits are tried on the two neighbours of the double on the grid of one, two, up
to seventeen digits; a tie between the neighbours goes up.

Results:
* `nearestField_of_firstFound?`: what the search finds reads back.
-/
namespace SelectLang.Binary64

-- Powers are those of the core library, whatever other instances are in scope.
attribute [local instance (2000)] instPowNat

/-- The `k` with `10 ^ (k - 1) ≤ num / den < 10 ^ k`: the count of the digits
before the point, or, below one, the count of zeros behind it, taken from the
digits of the inverse. -/
def decimalWidth (num den : Nat) : Int :=
  if den ≤ num then (Nat.toDigits 10 (num / den)).length
  else 1 - ((Nat.toDigits 10 ((den - 1) / num)).length : Int)

def readsBack (x : Binary64) (d : Decimal) : Bool := nearestField d.num d.den == x.magnitude

/-- The better of the neighbours of `x` on the grid of multiples of `10 ^
exponent`, if one of them reads back. -/
def onGrid? (x : Binary64) (exponent : Int) : Option Decimal :=
  let num := x.num * 10 ^ (-exponent).toNat
  let den := x.den * 10 ^ exponent.toNat
  let below : Decimal := ⟨num / den, exponent⟩
  let above : Decimal := ⟨num / den + 1, exponent⟩
  match x.readsBack below, x.readsBack above with
  | true, true => some (if 2 * (num % den) < den then below else above)
  | true, false => some below
  | false, true => some above
  | false, false => none

/-- The value of `x` itself as a decimal: a power of two below one is a power of
five shifted. -/
def exactDecimal (x : Binary64) : Decimal :=
  if 0 ≤ x.scale then ⟨x.significand * 2 ^ x.scale.toNat, 0⟩
  else ⟨x.significand * 5 ^ (-x.scale).toNat, x.scale⟩

/-- The first decimal found on the grids of one digit, of two, and so on up to
seventeen. -/
def firstFound? (x : Binary64) : Option Decimal :=
  let width := decimalWidth x.num x.den
  (List.range' 1 17).findSome? fun digits : Nat => x.onGrid? (width - digits)

/-- The shortest decimal that reads back as a finite double. Seventeen digits
are enough for every double; the exact value stands behind them. -/
def shortest (x : Binary64) : Decimal :=
  if x.magnitude = 0 then ⟨0, 0⟩ else (x.firstFound?.getD x.exactDecimal).trim

theorem nearestField_of_onGrid? {x : Binary64} {e : Int} {d : Decimal} (h : x.onGrid? e = some d) :
    nearestField d.num d.den = x.magnitude := by
  simp only [onGrid?] at h
  split at h
  · next h1 h2 =>
    simp only [readsBack, beq_iff_eq] at h1 h2
    cases h
    split <;> assumption
  · next h1 _ => simp only [readsBack, beq_iff_eq] at h1; cases h; exact h1
  · next _ h2 => simp only [readsBack, beq_iff_eq] at h2; cases h; exact h2
  · cases h

theorem nearestField_of_firstFound? {x : Binary64} {d : Decimal} (h : x.firstFound? = some d) :
    nearestField d.num d.den = x.magnitude := by
  obtain ⟨digits, -, found⟩ := List.exists_of_findSome?_eq_some h
  exact nearestField_of_onGrid? found

end SelectLang.Binary64
