import SelectLang.Token.Scan

/-!
# The lexical grammar

What the tokens of a text are, said without a scan. A text is cut from the
front: white space as far as it goes, then one lexeme, then what the rest is cut
into. Where one lexeme would be a beginning of another, the longest is meant.

* `LongestRun p run rest`: `run` is all of `run ++ rest` that belongs to the
  class `p` from the front.
* `First text kind piece rest`: `piece` is the first lexeme of `text`, and
  `rest` follows it.
* `Broken text piece`: no lexeme stands in front of `text`, and `piece` is the
  error.
* `Lexes text tokens`: `tokens` are the tokens of `text`.
* `Lexical text`: `text` is cut into lexemes to its end.

Results:
* `First.eq_append`, `First.piece_ne_nil`: a lexeme is a part of the text that
  is not empty.
* `First.kind_cases`: its kind is that of its shape, of a word or of a symbol.
* `Lexes.ne_nil`: every text has a token, if only the end.
-/
namespace SelectLang.Token

open SelectLang.Unicode

/-- `run` is the longest run of characters of the class in front of `run ++
rest`. -/
structure LongestRun (p : Char → Bool) (run rest : List Char) : Prop where
  inside : ∀ c ∈ run, p c
  outside : ∀ c, rest.head? = some c → p c = false

/-- What may stand between the outer quotes of a string: quotes only in pairs. -/
inductive QuotedBody : List Char → Prop
  | nil : QuotedBody []
  | char {c : Char} {rest : List Char} : c ≠ Quoted.mark → QuotedBody rest → QuotedBody (c :: rest)
  | pair {rest : List Char} : QuotedBody rest → QuotedBody (Quoted.mark :: Quoted.mark :: rest)

/-- A string with its outer quotes. -/
def IsString (piece : List Char) : Prop :=
  ∃ body, QuotedBody body ∧ piece = Quoted.mark :: (body ++ [Quoted.mark])

/-- Digits, and possibly a point with digits or nothing behind it. -/
def IsNumeral (piece : List Char) : Prop :=
  ∃ whole fraction : List Char, whole ≠ [] ∧ (∀ c ∈ whole, c.isDigit) ∧
    (∀ c ∈ fraction, c.isDigit) ∧ (piece = whole ∨ piece = whole ++ '.' :: fraction)

/-- The first lexeme of a text, its kind, and what follows it. -/
inductive First : List Char → Kind → List Char → List Char → Prop
  | comment {run rest : List Char} : LongestRun (fun c => !isLineEnd c) run rest →
      First ('-' :: '-' :: run ++ rest) .comment ('-' :: '-' :: run) rest
  | string {piece rest : List Char} : IsString piece → rest.head? ≠ some Quoted.mark →
      First (piece ++ rest) .stringLiteral piece rest
  | word {c : Char} {run rest : List Char} : isLetter c → LongestRun isWordPart run rest →
      First (c :: run ++ rest) (ReservedWord.kindOf (String.ofList (c :: run))) (c :: run) rest
  | numeral {piece rest : List Char} : IsNumeral piece →
      (∀ longer shorter, longer ++ shorter = piece ++ rest → IsNumeral longer →
        longer.length ≤ piece.length) →
      First (piece ++ rest) .numericLiteral piece rest
  | symbol {c : Char} {kind : Kind} {rest : List Char} : (String.singleton c, kind) ∈ symbols →
      ¬ (c = '-' ∧ rest.head? = some '-') → First (c :: rest) kind [c] rest

/-- An error in front of a text: a quote that begins no string, with all that
follows it, or a character that begins no lexeme and is no white space. -/
inductive Broken : List Char → List Char → Prop
  | unterminated {rest : List Char} :
      (∀ kind piece after, ¬ First (Quoted.mark :: rest) kind piece after) →
      Broken (Quoted.mark :: rest) (Quoted.mark :: rest)
  | stray {c : Char} {rest : List Char} : c ≠ Quoted.mark → isWhiteSpace c = false →
      (∀ kind piece after, ¬ First (c :: rest) kind piece after) → Broken (c :: rest) [c]

/-- The tokens of a text. -/
inductive Lexes : List Char → List Token → Prop
  | atEnd {gap : List Char} : LongestRun isWhiteSpace gap [] → Lexes gap [Token.atEnd]
  | error {gap text piece : List Char} : LongestRun isWhiteSpace gap text → Broken text piece →
      Lexes (gap ++ text) [⟨.error, String.ofList piece⟩]
  | token {gap text piece rest : List Char} {kind : Kind} {tokens : List Token} :
      LongestRun isWhiteSpace gap text → First text kind piece rest → Lexes rest tokens →
      Lexes (gap ++ text) (⟨kind, String.ofList piece⟩ :: tokens)

/-- A sequence of lexemes, each the first of what is left of the text, with white
space around them. -/
inductive Lexical : List Char → Prop
  | blank {gap : List Char} : LongestRun isWhiteSpace gap [] → Lexical gap
  | lexeme {gap text piece rest : List Char} {kind : Kind} : LongestRun isWhiteSpace gap text →
      First text kind piece rest → Lexical rest → Lexical (gap ++ text)

theorem IsNumeral.ne_nil {piece : List Char} (h : IsNumeral piece) : piece ≠ [] := by
  obtain ⟨whole, fraction, ne, -, -, rfl | rfl⟩ := h
  · exact ne
  · simp

theorem First.eq_append {text piece rest : List Char} {kind : Kind}
    (h : First text kind piece rest) : text = piece ++ rest := by
  cases h <;> simp

theorem First.piece_ne_nil {text piece rest : List Char} {kind : Kind}
    (h : First text kind piece rest) : piece ≠ [] := by
  cases h with
  | comment _ => simp
  | string shape _ =>
    obtain ⟨body, -, rfl⟩ := shape
    simp
  | word _ _ => simp
  | numeral shape _ => exact shape.ne_nil
  | symbol _ _ => simp

/-- The kind of a lexeme goes with its shape, or is that of a word or a symbol. -/
theorem First.kind_cases {text piece rest : List Char} {kind : Kind}
    (h : First text kind piece rest) :
    kind ∈ [.comment, .stringLiteral, .numericLiteral] ∨
      kind = ReservedWord.kindOf (String.ofList piece) ∨ (String.ofList piece, kind) ∈ symbols := by
  cases h with
  | comment _ => simp
  | string _ _ => simp
  | word _ _ => exact .inr (.inl rfl)
  | numeral _ _ => simp
  | @symbol c _ _ mem _ =>
    rw [show String.ofList [c] = String.singleton c from String.toList_inj.mp (by simp)]
    exact .inr (.inr mem)

theorem Lexes.ne_nil {text : List Char} {tokens : List Token} (h : Lexes text tokens) :
    tokens ≠ [] := by
  cases h <;> simp

end SelectLang.Token
