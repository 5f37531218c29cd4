import SelectLang.Proofs.Number.ReadBack
import SelectLang.Proofs.Query.Refusal
import SelectLang.Proofs.Query.Restart
import SelectLang.Proofs.Token.Verbatim

/-!
# Strings and numerals of a text

The literal of a string token is the quoted form of one value: the scan takes quotes in
pairs where the writer has doubled them, and where the two quotes at the ends are cut
off, collapsing the pairs gives that value again. The literal of a numeral token is
digits with at most one point behind the first, and every such text is read as a number.

Results:
* `quotedBody_iff`: what a scan takes for the inside of a string is what doubling makes
  of its collapsed form.
* `isString_iff`: the strings of the lexical grammar are the quoted forms of values.
* `unescaped_text_inverse`: so writing a value and reading its token undo each other.
* `numericLiteral_of_lex`: the numerals of a text have values, and no reading of its
  tokens is refused for one that has none.
-/
namespace SelectLang

open SelectLang.Token SelectLang.Grammar

/-! ## Strings -/

namespace Token

/-- The inside of a string is doubled text, and what it is doubled from is the text with
its pairs collapsed. -/
theorem quotedBody_iff (body : List Char) :
    QuotedBody body ↔ Quoted.double (Quoted.collapse body) = body := by
  refine ⟨fun h => ?_, fun h => h ▸ quotedBody_double _⟩
  induction h with
  | nil => rfl
  | char ne _ ih => rw [Quoted.collapse_cons ne, Quoted.double_cons ne, ih]
  | pair _ ih => rw [Quoted.collapse, if_pos ⟨rfl, rfl⟩, Quoted.double_cons_mark, ih]

theorem isString_iff (piece : List Char) :
    IsString piece ↔ ∃ value, piece = Quoted.quote value := by
  constructor
  · rintro ⟨body, inner, rfl⟩
    exact ⟨Quoted.collapse body, by rw [Quoted.quote, (quotedBody_iff body).mp inner]⟩
  · rintro ⟨value, rfl⟩
    exact ⟨_, quotedBody_double value, rfl⟩

theorem exists_quote_of_lex {source : String} {t : Token} (h : t ∈ lex source)
    (string : t.kind = .stringLiteral) :
    ∃ value, t = ⟨.stringLiteral, String.ofList (Quoted.quote value)⟩ := by
  cases (lexes_lex source).alone t h with
  | atEnd => cases string
  | error _ => cases string
  | lexeme first =>
    obtain ⟨value, rfl⟩ := (isString_iff _).mp (first.of_stringLiteral string)
    cases string
    exact ⟨value, rfl⟩

end Token

/-- **Escaping and unescaping are inverse.** The written form of a string value, cut by
itself, is one string token, and that denotes the value; and for every string token of
every text, the written form of what it denotes is its literal. -/
theorem unescaped_text_inverse :
    (∀ value, lex (Literal.string value).text =
        [⟨.stringLiteral, (Literal.string value).text⟩, Token.atEnd] ∧
      Token.unescaped ⟨.stringLiteral, (Literal.string value).text⟩ = value) ∧
    ∀ source, ∀ t ∈ lex source, t.kind = .stringLiteral →
      (Literal.string t.unescaped).text = t.literal := by
  refine ⟨fun value => ⟨?_, ?_⟩, fun source t mem string => ?_⟩
  · have first : First (Quoted.quote value.toList ++ []) .stringLiteral
        (Quoted.quote value.toList) [] := solid_quote value.toList [] (by simp [Breaks])
    rw [List.append_nil] at first
    exact first.lex_eq
  · rw [Literal.text, unescaped_quote, String.ofList_toList]
  · obtain ⟨value, rfl⟩ := exists_quote_of_lex mem string
    rw [unescaped_quote, Literal.text, String.toList_ofList]

/-- Strings of quotes alone, with one that ends in a quote in front of the closing one. -/
def quotesSource : String := "\x27\x27\x27\x27,\x27O\x27\x27Reilly\x27\x27\x27--\x27"

theorem unescaped_text_inverse_quotes :
    (⟨.stringLiteral, "\x27\x27\x27\x27"⟩ : Token) ∈ lex quotesSource ∧
      Token.unescaped ⟨.stringLiteral, "\x27\x27\x27\x27"⟩ = "\x27" ∧
      (Literal.string "\x27").text = "\x27\x27\x27\x27" ∧
      (⟨.stringLiteral, "\x27O\x27\x27Reilly\x27\x27\x27"⟩ : Token) ∈ lex quotesSource ∧
      Token.unescaped ⟨.stringLiteral, "\x27O\x27\x27Reilly\x27\x27\x27"⟩ = "O\x27Reilly\x27" ∧
      (Literal.string "O\x27Reilly\x27").text = "\x27O\x27\x27Reilly\x27\x27\x27" := by
  have quotes : (⟨.stringLiteral, "\x27\x27\x27\x27"⟩ : Token) ∈ lex quotesSource := by
    decide +kernel
  have name : (⟨.stringLiteral, "\x27O\x27\x27Reilly\x27\x27\x27"⟩ : Token) ∈ lex quotesSource := by
    decide +kernel
  have quotes_value : Token.unescaped ⟨.stringLiteral, "\x27\x27\x27\x27"⟩ = "\x27" := by
    decide +kernel
  have name_value : Token.unescaped ⟨.stringLiteral, "\x27O\x27\x27Reilly\x27\x27\x27"⟩ =
      "O\x27Reilly\x27" := by decide +kernel
  have written := unescaped_text_inverse.2 quotesSource
  exact ⟨quotes, quotes_value, quotes_value ▸ written _ quotes rfl,
    name, name_value, name_value ▸ written _ name rfl⟩

/-! ## Numerals -/

namespace Numeral

/-- A numeral has a value: the double nearest to the decimal that it spells. -/
theorem read_of_isNumeral {text : String} (h : IsNumeral text.toList) :
    ∃ d, Spells text.toList d ∧ Binary64.read text = .ok (Binary64.ofDecimal false d) := by
  obtain ⟨d, spells⟩ := exists_spells h
  exact ⟨d, spells, (read_eq_ok_iff ..).mpr spells.ofText?_eq⟩

end Numeral

theorem exists_of_mapError {ε ε' α : Type} {f : ε → ε'} {result : Except ε α} {e' : ε'}
    (h : result.mapError f = .error e') : ∃ e, result = .error e ∧ f e = e' := by
  cases result with
  | error e => exact ⟨e, rfl, Except.error.inj h⟩
  | ok a => cases h

theorem ne_invalidNumber {tokens : List Token} (lawful : ∀ t ∈ tokens, t.Lawful) {e : ReadError}
    (h : readTokens tokens = .error e) (fault : NumeralFault) : e.cause ≠ .invalidNumber fault := by
  intro cause
  have refuses := (readTokens_eq_error_iff ..).mp h
  obtain ⟨number, refused⟩ := refuses.of_invalidNumber cause
  have mem : e.token ∈ tokens := refuses.mem (by rw [number]; decide)
  obtain ⟨d, -, value⟩ := Numeral.read_of_isNumeral ((lawful _ mem).isNumeral number)
  rw [value] at refused
  cases refused

/-- **Numerals of a text have values.** The literal of a numeric token of a text is digits
with possibly a point behind them and digits behind that; it is read as the double
nearest to the decimal that it spells, and the token stands for this number. So neither
the text nor any call of a session on its tokens, wherever in these the call begins, is
refused for a numeral without a value. -/
theorem numericLiteral_of_lex (source : String) :
    (∀ t ∈ lex source, t.kind = .numericLiteral → IsNumeral t.literal.toList ∧
      ∃ d, Numeral.Spells t.literal.toList d ∧
        Binary64.read t.literal = .ok (Binary64.ofDecimal false d) ∧
        t.expression = .ok (.literal (.number (Binary64.ofDecimal false d)))) ∧
    (∀ e, parse source = .error e → ∀ fault, e.cause ≠ .invalidNumber fault) ∧
    ∀ calls e, .error e ∈ (Session.ofTokens (lex source)).results calls →
      ∀ fault, e.cause ≠ .invalidNumber fault := by
  have lawful := (lexes_lex source).lawful
  refine ⟨fun t mem number => ?_, fun e failed => ne_invalidNumber lawful failed,
    fun calls e mem => ?_⟩
  · have isNumeral := (lawful t mem).isNumeral number
    obtain ⟨d, spells, value⟩ := Numeral.read_of_isNumeral isNumeral
    exact ⟨isNumeral, d, spells, value, by simp only [Token.expression, number, value]⟩
  · obtain ⟨n, failed⟩ := Session.exists_readTokens_of_mem mem
    obtain ⟨e', read, rfl⟩ := exists_of_mapError failed.symm
    have inner := ne_invalidNumber (fun t ht => lawful t (List.mem_of_mem_drop ht)) read
    exact inner

/-- Numerals in two statements that are both refused, one of them for a numeral in the
place of a table. -/
def numeralsSource : String := "select 1., select 00.25 from 7"

theorem numericLiteral_of_lex_numerals :
    ((⟨.numericLiteral, "1."⟩ : Token) ∈ lex numeralsSource ∧ IsNumeral "1.".toList ∧
        ∃ d, Numeral.Spells "1.".toList d ∧
          Binary64.read "1." = .ok (Binary64.ofDecimal false d) ∧
          Token.expression ⟨.numericLiteral, "1."⟩ =
            .ok (.literal (.number (Binary64.ofDecimal false d)))) ∧
      (parse numeralsSource = .error ⟨.unexpectedToken, ⟨.selectWord, "select"⟩, 3⟩ ∧
        ∀ fault, ReadError.Cause.unexpectedToken ≠ .invalidNumber fault) ∧
      .error ⟨.expectedTableName, ⟨.numericLiteral, "7"⟩, 6⟩ ∈
          (Session.ofTokens (lex numeralsSource)).results 2 ∧
        ∀ fault, ReadError.Cause.expectedTableName ≠ .invalidNumber fault := by
  have mem : (⟨.numericLiteral, "1."⟩ : Token) ∈ lex numeralsSource := by decide +kernel
  have failed : parse numeralsSource =
      .error ⟨.unexpectedToken, ⟨.selectWord, "select"⟩, 3⟩ := by decide +kernel
  have again : .error ⟨.expectedTableName, ⟨.numericLiteral, "7"⟩, 6⟩ ∈
      (Session.ofTokens (lex numeralsSource)).results 2 := by decide +kernel
  obtain ⟨values, first, calls⟩ := numericLiteral_of_lex numeralsSource
  exact ⟨⟨mem, values _ mem rfl⟩, ⟨failed, first _ failed⟩, again, calls _ _ again⟩

end SelectLang
