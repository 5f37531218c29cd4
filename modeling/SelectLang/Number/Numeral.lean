import SelectLang.Number.Rounding

/-!
# Reading numerals

A numeral is an optional sign and then a decimal or one of the words `inf`,
`infinity` and `nan` in any ASCII case. A decimal has at least one digit, at
most one point and an optional exponent. It reads as the double nearest to its
value.

Results:
* `decimal?_digits`: digits read as their value.
-/
namespace SelectLang

inductive NumeralFault
  | empty
  | malformed
  deriving DecidableEq

def NumeralFault.message : NumeralFault → String
  | .empty => "cannot parse float from empty string"
  | .malformed => "invalid float literal"

namespace Numeral

/-- Splits off a sign; `true` stands for minus. -/
def splitSign : List Char → Bool × List Char
  | '-' :: rest => (true, rest)
  | '+' :: rest => (false, rest)
  | text => (false, text)

/-- The value of the digits of an exponent. Past `65536` further digits do not
count: such an exponent is beyond the range of a double already, and the value
stays small enough to work with. -/
def exponentValue (digits : List Char) : Nat :=
  digits.foldl (fun e c => if e < 65536 then 10 * e + (c.toNat - '0'.toNat) else e) 0

/-- The exponent that ends a decimal: nothing, or the letter `e`, an optional
sign and digits. -/
def exponent? : List Char → Option Int
  | [] => some 0
  | c :: rest =>
    if c = 'e' ∨ c = 'E' then
      let (negative, digits) := splitSign rest
      if digits ≠ [] ∧ digits.all Char.isDigit then
        some (if negative then -(exponentValue digits : Int) else exponentValue digits)
      else none
    else none

/-- The digits after a point, and what follows them; without a point there are
none. -/
def splitFraction : List Char → List Char × List Char
  | '.' :: rest => (rest.takeWhile Char.isDigit, rest.dropWhile Char.isDigit)
  | text => ([], text)

/-- The value of a decimal without sign. -/
def decimal? (text : List Char) : Option Decimal :=
  let whole := text.takeWhile Char.isDigit
  let (fraction, rest) := splitFraction (text.dropWhile Char.isDigit)
  if whole = [] ∧ fraction = [] then none
  else (exponent? rest).map fun e =>
    ⟨Nat.ofDigitChars 10 (whole ++ fraction) 0, e - fraction.length⟩

/-- The double that one of the three words stands for. -/
def word? (text : List Char) : Option Binary64 :=
  let lower := text.map Char.toLower
  if lower = ['i', 'n', 'f'] ∨ lower = ['i', 'n', 'f', 'i', 'n', 'i', 't', 'y'] then
    some Binary64.infinity
  else if lower = ['n', 'a', 'n'] then some Binary64.nan
  else none

/-- The double with the given sign that a numeral without sign stands for. -/
def unsigned? (negative : Bool) (text : List Char) : Option Binary64 :=
  match decimal? text with
  | some d => some (Binary64.ofDecimal negative d)
  | none => (word? text).map fun x => { x with negative }

end Numeral

def Binary64.ofText? (text : List Char) : Option Binary64 :=
  let (negative, rest) := Numeral.splitSign text
  Numeral.unsigned? negative rest

/-- The double that a text stands for, or what is wrong with the text. -/
def Binary64.read (text : String) : Except NumeralFault Binary64 :=
  match ofText? text.toList with
  | some x => .ok x
  | none => .error (if text.isEmpty then .empty else .malformed)

namespace Numeral

theorem takeWhile_eq_self {p : Char → Bool} {cs : List Char} (h : cs.all p) :
    cs.takeWhile p = cs ∧ cs.dropWhile p = [] := by
  induction cs with
  | nil => simp
  | cons c rest ih =>
    simp only [List.all_cons, Bool.and_eq_true] at h
    simp [h.1, ih h.2]

theorem decimal?_digits {digits : List Char} (h : digits.all Char.isDigit) (ne : digits ≠ []) :
    decimal? digits = some ⟨Nat.ofDigitChars 10 digits 0, 0⟩ := by
  obtain ⟨taken, dropped⟩ := takeWhile_eq_self h
  simp [decimal?, taken, dropped, splitFraction, exponent?, ne]

end Numeral

end SelectLang
