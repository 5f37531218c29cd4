import SelectLang.Proofs.Token.Spacing
import Mathlib

/-!
# Letter case of reserved words

A reserved word is the same token in every ASCII letter case. A text in which the
letters of such words are written otherwise is cut at the same places, and all its
other tokens are the same.

* `SameLetters a b`: the texts are the same but for the case of ASCII letters.
* `Recased t t'`: the tokens are the same, or one reserved word in two cases.
* `RecasedText source other`: the second text is the first with its reserved words in
  other cases.

Results:
* `eq_or_isAlpha`: characters that differ in their case are ASCII letters.
* `Shape.opening?_congr`, `Shape.extend?_congr`: the case of a letter does not count
  for the shape of a lexeme.
* `SameLetters.kindOf_eq`: nor for what a word is.
* `First.lexes_recased`, `Lexes.recased`: a lexeme, and a text, with other cases.
* `lex_recased`: the tokens of such a text.
-/
namespace SelectLang

open SelectLang.Unicode SelectLang.Token

/-! ## Characters -/

theorem eq_or_isAlpha {c d : Char} (h : c.toLower = d.toLower) : c = d ∨ c.isAlpha ∧ d.isAlpha := by
  have same : c.isAlpha = d.isAlpha := by
    rw [← Char.isAlpha_toLower_eq_isAlpha c, h, Char.isAlpha_toLower_eq_isAlpha]
  by_cases letter : d.isAlpha
  · exact .inr ⟨same ▸ letter, letter⟩
  · have plain {e : Char} (h : ¬ e.isAlpha) : e.toLower = e := by
      refine Char.toLower_eq_of_not_isUpper fun upper => h ?_
      rw [Char.isAlpha, upper, Bool.true_or]
    rw [plain letter, plain (same ▸ letter)] at h
    exact .inl h

theorem upperChars_congr {c d : Char} (h : c.toLower = d.toLower) :
    upperChars c = upperChars d := by
  rcases eq_or_isAlpha h with rfl | ⟨hc, hd⟩
  · rfl
  · have ascii {e : Char} (letter : e.isAlpha) : e.toNat < 128 := by
      have := isAlpha_bounds letter
      omega
    rw [upperChars_ascii (ascii hc), upperChars_ascii (ascii hd), ← Char.toUpper_toLower_eq_toUpper,
      h, Char.toUpper_toLower_eq_toUpper]

namespace Shape

/-- An ASCII letter is a part of words, and no sign of any other lexeme. -/
theorem of_isAlpha {c : Char} (h : c.isAlpha) :
    isLetter c ∧ isWordPart c ∧ c.isDigit = false ∧ isLineEnd c = false ∧ c ≠ '.' ∧ c ≠ '-' ∧
      c ≠ Quoted.mark := by
  have letter : isLetter c := by simp [isLetter, isAlphabetic_of_isAlpha h]
  have table : ∀ n < 128, (65 ≤ n ∧ n ≤ 90 ∨ 97 ≤ n ∧ n ≤ 122) →
      (Char.ofNat n).isDigit = false ∧ isLineEnd (Char.ofNat n) = false ∧ Char.ofNat n ≠ '.' ∧
        Char.ofNat n ≠ '-' ∧ Char.ofNat n ≠ Quoted.mark := by decide +kernel
  have bounds := isAlpha_bounds h
  have entry := table c.toNat (by omega) bounds
  rw [Char.ofNat_toNat] at entry
  exact ⟨letter, by simp [isWordPart, letter], entry⟩

theorem opening?_congr {c d : Char} (h : c.toLower = d.toLower) : opening? c = opening? d := by
  rcases eq_or_isAlpha h with rfl | ⟨hc, hd⟩
  · rfl
  · rw [opening?_letter (of_isAlpha hc).1, opening?_letter (of_isAlpha hd).1]

theorem extend?_congr (shape : Shape) {c d : Char} (h : c.toLower = d.toLower) :
    shape.extend? c = shape.extend? d := by
  rcases eq_or_isAlpha h with rfl | ⟨hc, hd⟩
  · rfl
  · obtain ⟨-, part, digit, line, point, hyphen, mark⟩ := of_isAlpha hc
    obtain ⟨-, part', digit', line', point', hyphen', mark'⟩ := of_isAlpha hd
    cases shape <;> simp [extend?, *]

end Shape

/-! ## Texts -/

/-- The texts are the same but for the case of ASCII letters. -/
def SameLetters (a b : List Char) : Prop := a.map Char.toLower = b.map Char.toLower

instance (a b : List Char) : Decidable (SameLetters a b) :=
  inferInstanceAs (Decidable (a.map Char.toLower = b.map Char.toLower))

namespace SameLetters

variable {a b : List Char}

theorem refl (a : List Char) : SameLetters a a := rfl

theorem append {a' b' : List Char} (h : SameLetters a b) (h' : SameLetters a' b') :
    SameLetters (a ++ a') (b ++ b') := by
  unfold SameLetters at h h' ⊢
  rw [List.map_append, List.map_append, h, h']

theorem exists_cons {c : Char} (h : SameLetters (c :: a) b) :
    ∃ d rest, b = d :: rest ∧ c.toLower = d.toLower ∧ SameLetters a rest := by
  obtain ⟨d, rest, rfl, same, further⟩ := List.map_eq_cons_iff.mp h.symm
  exact ⟨d, rest, rfl, same.symm, further.symm⟩

theorem upperCase_eq (h : SameLetters a b) :
    upperCase (String.ofList a) = upperCase (String.ofList b) := by
  rw [upperCase, upperCase, String.toList_ofList, String.toList_ofList]
  congr 1
  induction a generalizing b with
  | nil =>
    obtain rfl : b = [] := List.map_eq_nil_iff.mp h.symm
    rfl
  | cons c rest ih =>
    obtain ⟨d, rest', rfl, same, further⟩ := h.exists_cons
    rw [List.flatMap_cons, List.flatMap_cons, upperChars_congr same, ih further]

theorem kindOf_eq (h : SameLetters a b) :
    ReservedWord.kindOf (String.ofList a) = ReservedWord.kindOf (String.ofList b) := by
  rw [ReservedWord.kindOf, ReservedWord.kindOf, ReservedWord.find?_congr h.upperCase_eq]

theorem grown?_eq (h : SameLetters a b) (shape : Shape) : shape.grown? a = shape.grown? b := by
  induction a generalizing b shape with
  | nil =>
    obtain rfl : b = [] := List.map_eq_nil_iff.mp h.symm
    rfl
  | cons c rest ih =>
    obtain ⟨d, rest', rfl, same, further⟩ := h.exists_cons
    simp only [Shape.grown?, shape.extend?_congr same, ih further]

end SameLetters

/-- A shape spans a piece in every case of its letters, and of those behind it. -/
theorem Shape.Spans.congr {shape : Shape} {piece piece' rest rest' : List Char}
    (h : shape.Spans piece rest) (same : SameLetters piece piece')
    (behind : SameLetters rest rest') : shape.Spans piece' rest' := by
  obtain ⟨⟨c, run, first, rfl, opened, grown⟩, ended⟩ := h
  obtain ⟨d, run', rfl, letter, others⟩ := same.exists_cons
  refine ⟨⟨d, run', first, rfl, ?_, ?_⟩, fun x hx => ?_⟩
  · rw [← opening?_congr letter, opened]
  · rw [← others.grown?_eq, grown]
  · obtain ⟨after, rfl⟩ := List.head?_eq_some_iff.mp hx
    obtain ⟨y, after', rfl, back, -⟩ := SameLetters.exists_cons behind.symm
    rw [shape.extend?_congr back]
    exact ended y rfl

namespace Token

/-! ## Tokens -/

/-- The kinds of reserved words. -/
def reservedKinds : List Kind := [.selectWord, .fromWord, .nullWord, .booleanLiteral, .reservedWord]

/-- The tokens are the same, or one reserved word in two cases. -/
structure Recased (t t' : Token) : Prop where
  kind_eq : t'.kind = t.kind
  letters : SameLetters t.literal.toList t'.literal.toList
  kept : t.kind ∉ reservedKinds → t' = t

instance (t t' : Token) : Decidable (Recased t t') :=
  decidable_of_iff (t'.kind = t.kind ∧ SameLetters t.literal.toList t'.literal.toList ∧
      (t.kind ∉ reservedKinds → t' = t))
    ⟨fun h => ⟨h.1, h.2.1, h.2.2⟩, fun h => ⟨h.kind_eq, h.letters, h.kept⟩⟩

theorem Recased.refl (t : Token) : Recased t t := ⟨rfl, .refl _, fun _ => rfl⟩

theorem Recased.laidOut {tokens tokens' : List Token} (h : List.Forall₂ Recased tokens tokens')
    (gaps : List (List Char)) : SameLetters (laidOut gaps tokens) (laidOut gaps tokens') := by
  induction h generalizing gaps with
  | nil => exact .refl _
  | cons same _ ih =>
    cases gaps with
    | nil => exact .refl _
    | cons gap gaps =>
      rw [laidOut_cons, laidOut_cons]
      exact ((SameLetters.refl gap).append same.letters).append (ih gaps)

theorem Recased.eq_singleton {t : Token} {tokens : List Token} (h : t.kind ∉ reservedKinds)
    (changed : List.Forall₂ Recased [t] tokens) : tokens = [t] := by
  obtain ⟨t', others, same, none, rfl⟩ := List.forall₂_cons_left_iff.mp changed
  rw [same.kept h, List.forall₂_nil_left_iff.mp none]

theorem First.of_reserved {text piece rest : List Char} {kind : Kind}
    (h : First text kind piece rest) (reserved : kind ∈ reservedKinds) :
    ∃ c run, piece = c :: run ∧ isLetter c ∧ LongestRun isWordPart run rest ∧
      ReservedWord.kindOf (String.ofList piece) = kind := by
  have no_symbol : ∀ entry ∈ symbols, entry.2 ∉ reservedKinds := by decide
  cases h with
  | @word c run rest letter longest => exact ⟨c, run, rfl, letter, longest, rfl⟩
  | symbol mem _ => exact absurd reserved (no_symbol _ mem)
  | comment _ => exact absurd reserved (by decide)
  | string _ _ => exact absurd reserved (by decide)
  | numeral _ _ => exact absurd reserved (by decide)

/-! ## Texts with other cases -/

/-- The first lexeme of a text with other cases, before the tokens of the rest. -/
theorem First.lexes_recased {text piece rest rest' : List Char} {kind : Kind} {t : Token}
    {tokens : List Token} (h : First text kind piece rest)
    (same : Recased ⟨kind, String.ofList piece⟩ t) (behind : SameLetters rest rest')
    (further : Lexes rest' tokens) : Lexes (t.literal.toList ++ rest') (t :: tokens) := by
  by_cases reserved : kind ∈ reservedKinds
  · obtain ⟨_, literal⟩ := t
    obtain ⟨rfl, letters, -⟩ := same
    rw [String.toList_ofList] at letters
    obtain ⟨c, run, rfl, letter, longest, known⟩ := h.of_reserved reserved
    have word := (spans_word letter longest).congr letters behind
    rw [letters.kindOf_eq] at known
    have cut := word.lexes (congrArg Except.ok known) further
    rwa [String.ofList_toList] at cut
  · obtain rfl := same.kept reserved
    obtain ⟨shape, spans, known⟩ := h.spans
    rw [String.toList_ofList]
    exact (spans.congr (.refl piece) behind).lexes known further

/-- A text is cut into its tokens with other cases, if it is changed so. What an
error leaves behind it stays. -/
theorem Lexes.recased {text : List Char} {tokens : List Token} (h : Lexes text tokens)
    {gaps : List (List Char)} {rest : List Char} (len : gaps.length = tokens.length)
    (blank : ∀ gap ∈ gaps, ∀ c ∈ gap, isWhiteSpace c) (layout : text = laidOut gaps tokens ++ rest)
    {tokens' : List Token} (changed : List.Forall₂ Recased tokens tokens') :
    Lexes (laidOut gaps tokens' ++ rest) tokens' := by
  induction h generalizing gaps tokens' with
  | atEnd run =>
    obtain rfl := Recased.eq_singleton (by decide) changed
    exact layout ▸ .atEnd run
  | error run broken =>
    obtain rfl := Recased.eq_singleton (by simp [reservedKinds]) changed
    exact layout ▸ .error run broken
  | @token gap text piece after kind tokens run first further ih =>
    obtain ⟨t', tokens', same, others, rfl⟩ := List.forall₂_cons_left_iff.mp changed
    obtain ⟨gap', gaps, rfl⟩ := List.exists_cons_of_length_eq_add_one len
    obtain ⟨white, blank⟩ := List.forall_mem_cons.mp blank
    rw [laidOut_cons, String.toList_ofList, List.append_assoc, List.append_assoc] at layout
    rw [laidOut_cons, List.append_assoc, List.append_assoc]
    -- The lexeme stands behind the gap of the layout, and before the rest of it.
    have start : LongestRun isWhiteSpace gap' (piece ++ (laidOut gaps tokens ++ rest)) := by
      refine ⟨white, fun c hc => run.outside c ?_⟩
      obtain ⟨d, letters, rfl⟩ := List.exists_cons_of_ne_nil first.piece_ne_nil
      rw [first.eq_append]
      exact hc
    obtain ⟨-, same'⟩ := run.unique start layout
    rw [first.eq_append] at same'
    obtain rfl := List.append_cancel_left same'
    have behind := (Recased.laidOut others gaps).append (.refl rest)
    have cut := first.lexes_recased same behind (ih (by simpa using len) blank rfl others)
    exact cut.gap white

/-- The second text is the first with its reserved words in other cases. -/
def RecasedText (source other : String) : Prop :=
  ∃ (gaps : List (List Char)) (rest : List Char) (tokens : List Token),
    gaps.length = (lex source).length ∧ (∀ gap ∈ gaps, ∀ c ∈ gap, isWhiteSpace c) ∧
      source.toList = laidOut gaps (lex source) ++ rest ∧
      List.Forall₂ Recased (lex source) tokens ∧ other.toList = laidOut gaps tokens ++ rest

theorem RecasedText.refl (source : String) : RecasedText source source := by
  obtain ⟨gaps, rest, len, blank, layout, -⟩ := (lexes_lex source).exists_gaps
  exact ⟨gaps, rest, _, len, blank, layout, List.forall₂_same.mpr fun t _ => .refl t, layout⟩

theorem lex_recased {source other : String} (h : RecasedText source other) :
    List.Forall₂ Recased (lex source) (lex other) := by
  obtain ⟨gaps, rest, tokens, len, blank, layout, changed, layout'⟩ := h
  have lexes := (lexes_lex source).recased len blank layout changed
  rw [← layout'] at lexes
  rwa [lexes.lex_eq]

end Token

end SelectLang
