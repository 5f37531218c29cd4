import SelectLang.Proofs.Query.Refusal
import SelectLang.Proofs.Token.Verbatim
import SelectLang.Proofs.Token.ReservedWord
import Mathlib

/-!
# Words for truth values

A scan takes a word for a truth value by its full upper case, and a reading takes
the value from its lower case in ASCII. The two agree on every word but one: the
long s has the upper case `S`, and no lower case in ASCII, so that `falſe` is a
truth value without a value.

Results:
* `truthValue?_isSome_iff`: a word for a truth value has one exactly if it is
  written without the long s.
* `truthValue_of_lex`: so in a text only the long s has a truth value refused.
* `not_truthValue_of_lex`: and there it is refused.
-/
namespace SelectLang

open SelectLang.Unicode SelectLang.Token SelectLang.Grammar

/-! ## Words -/

/-- A word for a truth value has one of two plain upper cases. -/
theorem plainUpper_of_booleanLiteral {text : String}
    (h : ReservedWord.kindOf text = .booleanLiteral) :
    ∃ key ∈ ["TRUE", "FALSE"], text.toList.map plainUpper = key.toList := by
  have words : ∀ entry ∈ ReservedWord.table, entry.2 = .booleanLiteral →
      entry.1 ∈ ["TRUE", "FALSE"] := by decide
  rcases ReservedWord.kindOf_cases text with same | mem
  · rw [h] at same
    cases same
  · have plain := ReservedWord.upperCase_mem_table_iff.mp mem
    exact ⟨_, words _ plain h, (String.toList_map ..).symm⟩

/-- Without the long s, a word has the lower case of its plain upper case. -/
theorem map_toLower_of_plainUpper {text : List Char} {key : String}
    (mem : key ∈ ["TRUE", "FALSE"]) (h : text.map plainUpper = key.toList)
    (short : 'ſ' ∉ text) : text.map Char.toLower = key.toList.map Char.toLower := by
  have no_i : ∀ key ∈ ["TRUE", "FALSE"], 'I' ∉ key.toList := by decide
  rw [← h, List.map_map]
  refine List.map_congr_left fun c hc => ?_
  have long : c ≠ 'ſ' := fun same => short (same ▸ hc)
  have dotless : c ≠ 'ı' := by
    intro same
    have image : plainUpper c ∈ key.toList := h ▸ List.mem_map_of_mem hc
    subst same
    exact no_i key mem image
  rw [Function.comp_apply, plainUpper_of_ne dotless long, Char.toLower_toUpper_eq_toLower]

theorem truthValue?_isSome_iff {text : String} (h : ReservedWord.kindOf text = .booleanLiteral) :
    (truthValue? text).isSome ↔ 'ſ' ∉ text.toList := by
  refine ⟨fun some long => ?_, fun short => ?_⟩
  · obtain ⟨value, found⟩ := Option.isSome_iff_exists.mp some
    have lower := (truthValue?_eq_some_iff text value).mp found
    have image : 'ſ' ∈ text.toList.map Char.toLower := List.mem_map.mpr ⟨'ſ', long, by decide⟩
    rw [lower] at image
    cases value <;> exact absurd image (by decide)
  · obtain ⟨key, mem, plain⟩ := plainUpper_of_booleanLiteral h
    have lower := map_toLower_of_plainUpper mem plain short
    simp only [List.mem_cons, List.not_mem_nil, or_false] at mem
    rcases mem with rfl | rfl
    · rw [(truthValue?_eq_some_iff text true).mpr lower]
      rfl
    · rw [(truthValue?_eq_some_iff text false).mpr lower]
      rfl

/-! ## Texts -/

theorem kindOf_of_lex {source : String} {t : Token} (h : t ∈ lex source)
    (boolean : t.kind = .booleanLiteral) : ReservedWord.kindOf t.literal = .booleanLiteral := by
  have no_symbol : ∀ entry ∈ symbols, entry.2 ≠ .booleanLiteral := by decide
  cases (lexes_lex source).alone t h with
  | atEnd => cases boolean
  | error _ => cases boolean
  | lexeme first =>
    cases boolean
    rcases first.kind_cases with shape | word | symbol
    · simp at shape
    · exact word.symm
    · exact absurd rfl (no_symbol _ symbol)

/-- **Truth values.** In a text, a word for a truth value has one exactly if it is
written without the long s; and a text is refused for a truth value without a
value only at such a word with the long s. -/
theorem truthValue_of_lex (source : String) :
    (∀ t ∈ lex source, t.kind = .booleanLiteral →
      ((truthValue? t.literal).isSome ↔ 'ſ' ∉ t.literal.toList)) ∧
    ∀ e, parse source = .error e → e.cause = .invalidBoolean →
      e.token ∈ lex source ∧ e.token.kind = .booleanLiteral ∧ 'ſ' ∈ e.token.literal.toList := by
  have values (t : Token) (mem : t ∈ lex source) (boolean : t.kind = .booleanLiteral) :
      (truthValue? t.literal).isSome ↔ 'ſ' ∉ t.literal.toList :=
    truthValue?_isSome_iff (kindOf_of_lex mem boolean)
  refine ⟨values, fun e failed cause => ?_⟩
  have refuses := (readTokens_eq_error_iff ..).mp failed
  obtain ⟨boolean, none⟩ := refuses.of_invalidBoolean cause
  have mem : e.token ∈ lex source :=
    mem_of_closed (List.mem_of_getElem? refuses.getElem?.1) (by rw [boolean]; decide)
  refine ⟨mem, boolean, Classical.not_not.mp fun short => ?_⟩
  have some := (values _ mem boolean).mpr short
  rw [none] at some
  cases some

def longSSource : String := "select TruE, falſe from t"

theorem truthValue_longSSource :
    (⟨.booleanLiteral, "TruE"⟩ : Token) ∈ lex longSSource ∧
      ((truthValue? "TruE").isSome ↔ 'ſ' ∉ "TruE".toList) ∧
      parse longSSource = .error ⟨.invalidBoolean, ⟨.booleanLiteral, "falſe"⟩, 3⟩ ∧
      (⟨.booleanLiteral, "falſe"⟩ : Token) ∈ lex longSSource ∧ 'ſ' ∈ "falſe".toList := by
  have mem : (⟨.booleanLiteral, "TruE"⟩ : Token) ∈ lex longSSource := by decide +kernel
  have failed : parse longSSource = .error ⟨.invalidBoolean, ⟨.booleanLiteral, "falſe"⟩, 3⟩ := by
    decide +kernel
  obtain ⟨values, refused⟩ := truthValue_of_lex longSSource
  obtain ⟨long, -, letter⟩ := refused _ failed rfl
  exact ⟨mem, values _ mem rfl, failed, long, letter⟩

/-- A truth value with a long s has no value, and a text is refused for it. -/
theorem not_truthValue_of_lex :
    (∃ t ∈ lex "select falſe from t", t.kind = .booleanLiteral ∧ truthValue? t.literal = none) ∧
      ∃ e, parse "select falſe from t" = .error e ∧ e.cause = .invalidBoolean := by
  have failed : parse "select falſe from t" =
      .error ⟨.invalidBoolean, ⟨.booleanLiteral, "falſe"⟩, 1⟩ := by decide +kernel
  exact ⟨⟨⟨.booleanLiteral, "falſe"⟩, by decide +kernel, rfl, by decide⟩, _, failed, rfl⟩

end SelectLang
