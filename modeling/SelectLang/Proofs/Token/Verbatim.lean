import SelectLang.Proofs.Token.Written

/-!
# Tokens and their text

The literals of the tokens are pieces of the text, one behind the other, and what
stands between them is white space. Each literal taken out of the text is cut
into the same token again.

* `laidOut gaps tokens`: the literals of the tokens, each behind its gap.
* `Alone t`: the literal of the token, with nothing around it, is cut into the
  token.

Results:
* `Lexes.exists_body`: all tokens but the last are lexemes.
* `Lexes.exists_gaps`: a text is its tokens laid out, and what an error leaves.
* `First.alone`, `Broken.alone`: a lexeme, and an error, is one without the text
  behind it.
* `lex_laidOut`: the literals of the tokens divide the text.
* `lex_literal`: the literal of a token is cut into that token.
-/
namespace SelectLang.Token

open SelectLang.Unicode

/-! ## Kinds -/

theorem First.kind_ne {text piece rest : List Char} {kind : Kind}
    (h : First text kind piece rest) : kind ≠ .endOfInput ∧ kind ≠ .error := by
  have no_shape : ∀ kind ∈ [Kind.comment, .stringLiteral, .numericLiteral],
      kind ≠ .endOfInput ∧ kind ≠ .error := by decide
  have no_word : ∀ entry ∈ ReservedWord.table, entry.2 ≠ .endOfInput ∧ entry.2 ≠ .error := by
    decide
  have no_symbol : ∀ entry ∈ symbols, entry.2 ≠ .endOfInput ∧ entry.2 ≠ .error := by decide
  rcases h.kind_cases with shape | word | symbol
  · exact no_shape _ shape
  · rcases ReservedWord.kindOf_cases (String.ofList piece) with same | mem
    · simp [word, same]
    · exact word ▸ no_word _ mem
  · exact no_symbol _ symbol

/-! ## The layout of a text -/

/-- The literals of the tokens, each behind its gap. -/
def laidOut (gaps : List (List Char)) (tokens : List Token) : List Char :=
  (List.zipWith (fun gap t => gap ++ t.literal.toList) gaps tokens).flatten

theorem laidOut_cons (gap : List Char) (gaps : List (List Char)) (t : Token)
    (tokens : List Token) :
    laidOut (gap :: gaps) (t :: tokens) = gap ++ t.literal.toList ++ laidOut gaps tokens := by
  simp [laidOut]

theorem Broken.exists_rest {text piece : List Char} (h : Broken text piece) :
    ∃ rest, text = piece ++ rest ∧ (piece.head? = some Quoted.mark → rest = []) := by
  cases h with
  | unterminated _ => exact ⟨[], by simp, fun _ => rfl⟩
  | stray ne _ _ => exact ⟨_, rfl, fun mark => absurd (Option.some.inj mark) ne⟩

/-- What a last token leaves of the text. -/
inductive Leaves : Token → List Char → Prop
  | atEnd : Leaves Token.atEnd []
  | error {literal : String} {rest : List Char} :
      (literal.toList.head? = some Quoted.mark → rest = []) → Leaves ⟨.error, literal⟩ rest

theorem Lexes.exists_body {text : List Char} {tokens : List Token} (h : Lexes text tokens) :
    ∃ body last, tokens = body ++ [last] ∧
      ∀ t ∈ body, t.kind ≠ .endOfInput ∧ t.kind ≠ .error ∧ t.literal ≠ "" := by
  induction h with
  | atEnd _ => exact ⟨[], _, rfl, by simp⟩
  | error _ _ => exact ⟨[], _, rfl, by simp⟩
  | @token gap text piece rest kind tokens _ first _ ih =>
    obtain ⟨body, last, rfl, inner⟩ := ih
    obtain ⟨ending, error⟩ := first.kind_ne
    have literal : String.ofList piece ≠ "" := fun empty =>
      first.piece_ne_nil (String.ofList_eq_empty_iff.mp empty)
    exact ⟨⟨kind, String.ofList piece⟩ :: body, last, rfl,
      List.forall_mem_cons.mpr ⟨⟨ending, error, literal⟩, inner⟩⟩

theorem Lexes.exists_gaps {text : List Char} {tokens : List Token} (h : Lexes text tokens) :
    ∃ gaps rest, gaps.length = tokens.length ∧ (∀ gap ∈ gaps, ∀ c ∈ gap, isWhiteSpace c) ∧
      text = laidOut gaps tokens ++ rest ∧
      ∃ last, tokens.getLast? = some last ∧ Leaves last rest := by
  induction h with
  | @atEnd gap blank =>
    exact ⟨[gap], [], rfl, by simpa using blank.inside, by simp [laidOut, Token.atEnd], _, rfl,
      .atEnd⟩
  | @error gap text piece blank broken =>
    obtain ⟨rest, rfl, whole⟩ := broken.exists_rest
    refine ⟨[gap], rest, rfl, by simpa using blank.inside, by simp [laidOut], _, rfl, .error ?_⟩
    rwa [String.toList_ofList]
  | @token gap text piece rest kind tokens blank first further ih =>
    -- The lexeme goes in front, and what the last token leaves stays the same.
    obtain ⟨gaps, left, len, white, rfl, last, final, leaves⟩ := ih
    refine ⟨gap :: gaps, left, by simpa using len, List.forall_mem_cons.mpr ⟨blank.inside, white⟩,
      ?_, last, ?_, leaves⟩
    · rw [laidOut_cons, first.eq_append, String.toList_ofList]
      simp
    · rwa [List.getLast?_cons_of_ne_nil further.ne_nil]

/-- **The literals divide the text.** Behind each other, and with nothing but
white space between them, the literals of the tokens are the text. Only an error
leaves a rest, and a string that is not closed leaves none; the token of the end
or of an error comes last and nowhere else, and all others have a literal. -/
theorem lex_laidOut (source : String) :
    ∃ gaps body last rest, lex source = body ++ [last] ∧
      gaps.length = (lex source).length ∧ (∀ gap ∈ gaps, ∀ c ∈ gap, isWhiteSpace c) ∧
      source.toList = laidOut gaps (lex source) ++ rest ∧
      (∀ t ∈ body, t.kind ≠ .endOfInput ∧ t.kind ≠ .error ∧ t.literal ≠ "") ∧
      (last = Token.atEnd ∧ rest = [] ∨
        last.kind = .error ∧ (last.literal.toList.head? = some Quoted.mark → rest = [])) := by
  obtain ⟨gaps, rest, len, white, text, last, final, leaves⟩ := (lexes_lex source).exists_gaps
  obtain ⟨body, last', tokens, inner⟩ := (lexes_lex source).exists_body
  have same : last' = last := by
    rw [tokens, List.getLast?_append, List.getLast?_singleton] at final
    exact Option.some.inj final
  subst same
  refine ⟨gaps, body, last', rest, tokens, len, white, text, inner, ?_⟩
  cases leaves with
  | atEnd => exact .inl ⟨rfl, rfl⟩
  | error whole => exact .inr ⟨rfl, whole⟩

/-! ## Literals by themselves -/

/-- The literal of the token, with nothing around it, is cut into the token. -/
inductive Alone : Token → Prop
  | atEnd : Alone Token.atEnd
  | error {piece : List Char} : Broken piece piece → Alone ⟨.error, String.ofList piece⟩
  | lexeme {kind : Kind} {piece : List Char} : First piece kind piece [] →
      Alone ⟨kind, String.ofList piece⟩

theorem First.alone {text piece rest : List Char} {kind : Kind} (h : First text kind piece rest) :
    First piece kind piece [] := by
  have whole : First (piece ++ []) kind piece [] := by
    cases h with
    | comment longest => exact .comment ⟨longest.inside, by simp⟩
    | string shape _ => exact .string shape (by simp)
    | word letter longest => exact .word letter ⟨longest.inside, by simp⟩
    | numeral shape _ =>
      refine .numeral shape fun longer shorter e _ => ?_
      rw [List.append_nil] at e
      simp [← e]
    | symbol mem _ => exact .symbol mem (by simp)
  rwa [List.append_nil] at whole

theorem not_first_of_stray {c : Char} (h : Shape.opening? c = some .stray)
    {rest piece after : List Char} {kind : Kind} : ¬ First (c :: rest) kind piece after := by
  intro first
  obtain ⟨shape, spans, known⟩ := first.spans
  obtain ⟨d, run, opened, rfl, opens, grown⟩ := spans.grown
  have same : d = c := by
    have := first.eq_append
    rw [List.cons_append] at this
    exact (List.cons.inj this).1.symm
  subst same
  obtain rfl : opened = .stray := Option.some.inj (opens.symm.trans h)
  -- Such a lexeme does not grow beyond its character, which has no kind.
  cases run with
  | nil =>
    cases grown
    cases known
  | cons e run => cases grown

theorem Broken.alone {text piece : List Char} (h : Broken text piece) : Broken piece piece := by
  cases h with
  | unterminated none => exact .unterminated none
  | stray ne blank none =>
    have stray := opening?_stray ne blank none
    exact .stray ne blank fun _ _ _ => not_first_of_stray stray

theorem Lexes.alone {text : List Char} {tokens : List Token} (h : Lexes text tokens) :
    ∀ t ∈ tokens, t.Alone := by
  induction h with
  | atEnd _ => simpa using Alone.atEnd
  | error _ broken => simpa using Alone.error broken.alone
  | token _ first _ ih => exact List.forall_mem_cons.mpr ⟨.lexeme first.alone, ih⟩

theorem Broken.no_gap {text piece : List Char} (h : Broken text piece) :
    LongestRun isWhiteSpace [] text where
  inside := by simp
  outside c hc := by
    cases h with
    | unterminated _ =>
      obtain rfl : Quoted.mark = c := Option.some.inj hc
      decide +kernel
    | stray _ blank _ => exact Option.some.inj hc ▸ blank

theorem Broken.lex_eq {piece : List Char} (h : Broken piece piece) :
    lex (String.ofList piece) = [⟨.error, String.ofList piece⟩] := by
  have lexes : Lexes ([] ++ piece) [⟨.error, String.ofList piece⟩] := .error h.no_gap h
  rw [List.nil_append, ← String.toList_ofList (l := piece), String.ofList_toList] at lexes
  exact lexes.lex_eq

theorem First.lex_eq {piece : List Char} {kind : Kind} (h : First piece kind piece []) :
    lex (String.ofList piece) = [⟨kind, String.ofList piece⟩, Token.atEnd] := by
  have lexes := h.lexes lexes_nil
  rw [← String.toList_ofList (l := piece), String.ofList_toList] at lexes
  exact lexes.lex_eq

/-- **A token is what its literal says.** Cut by itself, the literal of a token of
any text gives that token: an end gives nothing more than the end, an error
stops there, and any other token is followed by the end. -/
theorem lex_literal {source : String} {t : Token} (h : t ∈ lex source) :
    (t.kind = .endOfInput → lex t.literal = [Token.atEnd]) ∧
      (t.kind = .error → lex t.literal = [t]) ∧
      (t.kind ≠ .endOfInput → t.kind ≠ .error → lex t.literal = [t, Token.atEnd]) := by
  cases (lexes_lex source).alone t h with
  | atEnd =>
    have nothing : lex "" = [Token.atEnd] := rfl
    exact ⟨fun _ => nothing, fun _ => nothing, fun ending => absurd rfl ending⟩
  | error broken => exact ⟨by simp, fun _ => broken.lex_eq, fun _ error => absurd rfl error⟩
  | lexeme first =>
    obtain ⟨ending, error⟩ := first.kind_ne
    exact ⟨fun same => absurd same ending, fun same => absurd same error, fun _ _ => first.lex_eq⟩

/-- A text in which each lexeme is cut short by the next, and a string at the end
that is not closed. -/
def crowdedSource : String := "1.2\x27a\x27\x27b\x27--x\r-ſelect\x27\x27\x27"

theorem lex_literal_crowded :
    (⟨.error, "\x27\x27\x27"⟩ : Token) ∈ lex crowdedSource ∧
      lex "\x27\x27\x27" = [⟨.error, "\x27\x27\x27"⟩] ∧
      (⟨.numericLiteral, "1.2"⟩ : Token) ∈ lex crowdedSource ∧
      lex "1.2" = [⟨.numericLiteral, "1.2"⟩, Token.atEnd] ∧
      Token.atEnd ∈ lex "a" ∧ lex Token.atEnd.literal = [Token.atEnd] := by
  have error : (⟨.error, "\x27\x27\x27"⟩ : Token) ∈ lex crowdedSource := by decide +kernel
  have numeral : (⟨.numericLiteral, "1.2"⟩ : Token) ∈ lex crowdedSource := by decide +kernel
  have ending : Token.atEnd ∈ lex "a" := by decide +kernel
  exact ⟨error, (lex_literal error).2.1 rfl, numeral,
    (lex_literal numeral).2.2 (by decide) (by decide), ending, (lex_literal ending).1 rfl⟩

end SelectLang.Token
