import SelectLang.Number.Shortest

/-!
# Writing doubles

The digits of a double are the shortest that read back. How they are laid out is
a value of `NumberLayout`, and there are two: `plain`, which a statement is
written with, and `marked`, which shows in every text that it is a number.
-/
namespace SelectLang

/-- The choices in the writing of a finite double. -/
structure NumberLayout where
  /-- What follows a number without fraction. -/
  wholeMark : List Char
  /-- The exponents of the leading digit that are written without an exponent;
  all, if none are named. -/
  positionalRange : Option (Int × Int)

namespace NumberLayout

/-- Whole numbers stand without a point, and no number has an exponent. -/
def plain : NumberLayout := ⟨[], none⟩

/-- Whole numbers end in `.0`; an exponent is written below `10 ^ -4` and from
`10 ^ 16` on. -/
def marked : NumberLayout := ⟨['.', '0'], some (-4, 15)⟩

/-- Whether a number with this exponent of the leading digit is written without
an exponent. -/
def isPositional (l : NumberLayout) (leading : Int) : Bool :=
  match l.positionalRange with
  | none => true
  | some (low, high) => low ≤ leading && leading ≤ high

/-- The decimal written without an exponent. -/
def positional (l : NumberLayout) (d : Decimal) : List Char :=
  if 0 ≤ d.exponent then d.digits ++ List.replicate d.exponent.toNat '0' ++ l.wholeMark
  else
    let places := (-d.exponent).toNat
    let count := d.digits.length
    if places < count then d.digits.take (count - places) ++ '.' :: d.digits.drop (count - places)
    else '0' :: '.' :: List.replicate (places - count) '0' ++ d.digits

/-- A whole number in decimal digits, with a sign if it is negative. -/
def integer (n : Int) : List Char :=
  if n < 0 then '-' :: Nat.toDigits 10 n.natAbs else Nat.toDigits 10 n.natAbs

/-- The decimal written with one digit before the point and an exponent. -/
def scientific (d : Decimal) : List Char :=
  let fraction := if d.digits.tail = [] then [] else '.' :: d.digits.tail
  d.digits.take 1 ++ fraction ++ 'e' :: integer d.leadingExponent

def decimal (l : NumberLayout) (d : Decimal) : List Char :=
  if d.coefficient = 0 ∨ l.isPositional d.leadingExponent then l.positional d else scientific d

end NumberLayout

def Binary64.text (l : NumberLayout) (x : Binary64) : String :=
  if x.isNaN then "NaN"
  else
    let body := if x.isInfinite then ['i', 'n', 'f'] else l.decimal x.shortest
    String.ofList (if x.negative then '-' :: body else body)

end SelectLang
