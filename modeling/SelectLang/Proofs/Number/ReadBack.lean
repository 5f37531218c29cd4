import SelectLang.Number.Layout
import SelectLang.Number.Numeral
import SelectLang.Proofs.Number.Nearest
import SelectLang.Token.Grammar

/-!
# Reading written numbers back

A finite double is written as digits, possibly with a point among them. Such a
text is a numeral of the lexical grammar, and what it reads as is the double
again: the digits were chosen to read back, and the layout keeps their value.

* `Numeral.Spells text d`: the text is the decimal `d`, digit by digit.

Results:
* `nearestField_shortest`: the digits of a double read back.
* `Spells.ofText?_eq`: a text that spells a decimal reads as the double nearest
  to it.
* `spells_positional`: the layout without exponents spells the decimal.
* `ofText?_text`, `isNumeral_text`: so a finite double without sign is read back
  from its text, and the text is a numeral.
-/
namespace SelectLang

open SelectLang.Token

/-! ## The chosen digits -/

namespace Binary64

theorem exactDecimal_value (x : Binary64) :
    x.exactDecimal.num * x.den = x.num * x.exactDecimal.den := by
  unfold exactDecimal
  split
  · next whole =>
    have no_places : (-x.scale).toNat = 0 := by omega
    simp [Decimal.num, Decimal.den, num, den, no_places]
  · next small =>
    have no_zeros : x.scale.toNat = 0 := by omega
    simp only [Decimal.num, Decimal.den, num, den, no_zeros, Nat.pow_zero, Nat.mul_one]
    rw [Nat.mul_assoc, ← Nat.mul_pow]

theorem nearestField_trim (d : Decimal) :
    nearestField d.trim.num d.trim.den = nearestField d.num d.den :=
  nearestField_congr d.trim.den_pos d.den_pos d.trim_num_mul_den

theorem nearestField_shortest {x : Binary64} (h : x.isFinite) :
    nearestField x.shortest.num x.shortest.den = x.magnitude := by
  unfold shortest
  split
  · next zero => rw [zero]; rfl
  · rw [nearestField_trim]
    cases found : x.firstFound? with
    | some d => exact nearestField_of_firstFound? found
    | none =>
      rw [Option.getD_none, ← nearestField_self h]
      exact nearestField_congr (Decimal.den_pos _) x.den_pos x.exactDecimal_value

end Binary64

/-! ## Texts that spell a decimal -/

namespace Numeral

/-- The text is the decimal, digit by digit. -/
inductive Spells : List Char → Decimal → Prop
  | whole {digits : List Char} : digits ≠ [] → (∀ c ∈ digits, c.isDigit) →
      Spells digits ⟨Nat.ofDigitChars 10 digits 0, 0⟩
  | point {whole fraction : List Char} : whole ≠ [] → (∀ c ∈ whole, c.isDigit) →
      (∀ c ∈ fraction, c.isDigit) →
      Spells (whole ++ '.' :: fraction)
        ⟨Nat.ofDigitChars 10 (whole ++ fraction) 0, -(fraction.length : Int)⟩

theorem Spells.isNumeral {text : List Char} {d : Decimal} (h : Spells text d) :
    IsNumeral text := by
  cases h with
  | whole ne digits => exact ⟨text, [], ne, digits, by simp, .inl rfl⟩
  | @point whole fraction ne digits decimals =>
    exact ⟨whole, fraction, ne, digits, decimals, .inr rfl⟩

theorem exists_spells {text : List Char} (h : IsNumeral text) : ∃ d, Spells text d := by
  obtain ⟨whole, fraction, ne, digits, decimals, rfl | rfl⟩ := h
  · exact ⟨_, .whole ne digits⟩
  · exact ⟨_, .point ne digits decimals⟩

theorem Spells.decimal?_eq {text : List Char} {d : Decimal} (h : Spells text d) :
    decimal? text = some d := by
  cases h with
  | whole ne digits => exact decimal?_digits (List.all_eq_true.mpr digits) ne
  | @point whole fraction ne digits decimals =>
    have taken : (whole ++ '.' :: fraction).takeWhile Char.isDigit = whole := by
      rw [List.takeWhile_append_of_pos digits, List.takeWhile_cons_of_neg (by decide),
        List.append_nil]
    have dropped : (whole ++ '.' :: fraction).dropWhile Char.isDigit = '.' :: fraction := by
      rw [List.dropWhile_append_of_pos digits, List.dropWhile_cons_of_neg (by decide)]
    obtain ⟨all_taken, none_left⟩ := takeWhile_eq_self (List.all_eq_true.mpr decimals)
    simp [decimal?, taken, dropped, splitFraction, all_taken, none_left, exponent?, ne]

theorem splitSign_digit {c : Char} (h : c.isDigit) (rest : List Char) :
    splitSign (c :: rest) = (false, c :: rest) := by
  unfold splitSign
  split
  · next e => obtain ⟨rfl, -⟩ := List.cons.inj e; simp at h
  · next e => obtain ⟨rfl, -⟩ := List.cons.inj e; simp at h
  · rfl

theorem Spells.exists_digit {text : List Char} {d : Decimal} (h : Spells text d) :
    ∃ c rest, text = c :: rest ∧ c.isDigit := by
  cases h with
  | whole ne digits =>
    obtain ⟨c, rest, rfl⟩ := List.exists_cons_of_ne_nil ne
    exact ⟨c, rest, rfl, digits c (List.mem_cons_self ..)⟩
  | @point whole fraction ne digits decimals =>
    obtain ⟨c, rest, rfl⟩ := List.exists_cons_of_ne_nil ne
    exact ⟨c, _, rfl, digits c (List.mem_cons_self ..)⟩

theorem Spells.ofText?_eq {text : List Char} {d : Decimal} (h : Spells text d) :
    Binary64.ofText? text = some (Binary64.ofDecimal false d) := by
  obtain ⟨c, rest, rfl, digit⟩ := h.exists_digit
  simp [Binary64.ofText?, splitSign_digit digit, unsigned?, h.decimal?_eq]

/-- A numeral of the lexical grammar reads as the double nearest to a decimal,
without a sign. -/
theorem ofText?_numeral {text : List Char} (h : IsNumeral text) :
    ∃ d, Binary64.ofText? text = some (Binary64.ofDecimal false d) := by
  obtain ⟨d, spells⟩ := exists_spells h
  exact ⟨d, spells.ofText?_eq⟩

end Numeral

/-! ## The layout without exponents -/

open Numeral

theorem Decimal.isDigit_digits (d : Decimal) : ∀ c ∈ d.digits, c.isDigit := fun _ hc =>
  Nat.isDigit_of_mem_toDigits (by decide) (by decide) hc

theorem Decimal.ofDigitChars_digits (d : Decimal) :
    Nat.ofDigitChars 10 d.digits 0 = d.coefficient :=
  Nat.ofDigitChars_ten_toDigits

theorem isDigit_zeros (n : Nat) : ∀ c ∈ List.replicate n '0', c.isDigit := fun c hc => by
  rw [List.eq_of_mem_replicate hc]; rfl

theorem Spells.of_parts {whole fraction : List Char} {d : Decimal} (ne : whole ≠ [])
    (digits : ∀ c ∈ whole ++ fraction, c.isDigit)
    (value : Nat.ofDigitChars 10 (whole ++ fraction) 0 = d.coefficient)
    (places : (fraction.length : Int) = -d.exponent) : Spells (whole ++ '.' :: fraction) d := by
  have spells := Spells.point ne (fun c hc => digits c (List.mem_append_left _ hc))
    (fun c hc => digits c (List.mem_append_right _ hc))
  rwa [value, places, Int.neg_neg] at spells

/-- With an exponent that is not negative, its zeros go into the coefficient. -/
theorem spells_zeros {d : Decimal} (h : 0 ≤ d.exponent) :
    ∃ d', Spells (d.digits ++ List.replicate d.exponent.toNat '0') d' ∧
      d'.num * d.den = d.num * d'.den := by
  have no_places : (-d.exponent).toNat = 0 := by omega
  refine ⟨_, .whole ?_ fun c hc => ?_, ?_⟩
  · simp [Decimal.digits, Nat.toDigits_ne_nil]
  · exact (List.mem_append.mp hc).elim (d.isDigit_digits c) (isDigit_zeros _ c)
  · rw [Nat.ofDigitChars_append, d.ofDigitChars_digits, Nat.ofDigitChars_replicate_zero]
    simp [Decimal.num, Decimal.den, no_places, Nat.mul_comm]

/-- With as many places as digits or more, zeros stand around the point. -/
theorem spells_leading_zeros {d : Decimal} {n : Nat}
    (h : (n + d.digits.length : Int) = -d.exponent) :
    Spells ('0' :: '.' :: List.replicate n '0' ++ d.digits) d := by
  have zeros : ['0'] ++ (List.replicate n '0' ++ d.digits) =
      List.replicate (n + 1) '0' ++ d.digits := by simp [List.replicate_succ]
  show Spells (['0'] ++ '.' :: (List.replicate n '0' ++ d.digits)) d
  refine Spells.of_parts (by simp) (fun c hc => ?_) ?_ ?_
  · rw [zeros] at hc
    exact (List.mem_append.mp hc).elim (isDigit_zeros _ c) (d.isDigit_digits c)
  · rw [zeros, Nat.ofDigitChars_append, Nat.ofDigitChars_replicate_zero, Nat.mul_zero,
      d.ofDigitChars_digits]
  · rw [List.length_append, List.length_replicate]
    omega

/-- A decimal written without an exponent is spelled, up to zeros that move from
the exponent into the coefficient. -/
theorem spells_positional (d : Decimal) :
    ∃ d', Spells (NumberLayout.plain.positional d) d' ∧ d'.num * d.den = d.num * d'.den := by
  simp only [NumberLayout.positional, show NumberLayout.plain.wholeMark = [] from rfl,
    List.append_nil]
  split
  · next whole => exact spells_zeros whole
  · refine ⟨d, ?_, rfl⟩
    split
    · next inside =>
      refine Spells.of_parts ?_ ?_ ?_ ?_
      · exact List.ne_nil_of_length_pos (by rw [List.length_take]; omega)
      · rw [List.take_append_drop]
        exact d.isDigit_digits
      · rw [List.take_append_drop, d.ofDigitChars_digits]
      · rw [List.length_drop]
        omega
    · exact spells_leading_zeros (by omega)

namespace Binary64

theorem isFinite_iff (x : Binary64) : x.isFinite ↔ x.isNaN = false ∧ x.isInfinite = false := by
  simp only [isFinite, isNaN, isInfinite, decide_eq_true_eq, decide_eq_false_iff_not,
    beq_eq_false_iff_ne]
  omega

theorem toList_text {x : Binary64} (h : x.isFinite) (positive : x.negative = false) :
    (x.text .plain).toList = NumberLayout.plain.positional x.shortest := by
  obtain ⟨h1, h2⟩ := x.isFinite_iff.mp h
  simp [text, h1, h2, positive, NumberLayout.decimal, NumberLayout.isPositional, NumberLayout.plain]

theorem isNumeral_text {x : Binary64} (h : x.isFinite) (positive : x.negative = false) :
    IsNumeral (x.text .plain).toList := by
  obtain ⟨d, spells, -⟩ := spells_positional x.shortest
  rw [toList_text h positive]
  exact spells.isNumeral

theorem ofText?_text {x : Binary64} (h : x.isFinite) (positive : x.negative = false) :
    ofText? (x.text .plain).toList = some x := by
  obtain ⟨d, spells, value⟩ := spells_positional x.shortest
  have field : nearestField d.num d.den = x.magnitude := by
    rw [nearestField_congr d.den_pos x.shortest.den_pos value, nearestField_shortest h]
  rw [toList_text h positive, spells.ofText?_eq]
  obtain ⟨negative, magnitude, bound⟩ := x
  cases positive
  simp only [ofDecimal, field]

end Binary64

end SelectLang
