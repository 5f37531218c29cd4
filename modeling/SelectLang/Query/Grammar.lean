import SelectLang.Query.Reading

/-!
# The grammar of statements

Which lists of tokens are programs, and of which statements, said without a
reading.

* `closed tokens`: the tokens with an end token behind them.
* `significant tokens`: the tokens that the grammar is about: those before the
  first end token, without the comments.
* `Denotes token value`: the token stands for the expression.
* `Listed tokens values`: the tokens are expressions with commas between them.
* `Stated tokens statement`: the tokens are one statement.
* `Program tokens statements`: the tokens are statements with semicolons between
  them, and possibly one behind the last.

Results:
* `Listed.values_ne_nil`: a list has an expression.
-/
namespace SelectLang.Grammar

/-- The tokens with an end token behind them, unless they end in one already. -/
def closed (tokens : List Token) : List Token :=
  if tokens.getLast?.map (·.kind) = some .endOfInput then tokens else tokens ++ [Token.atEnd]

/-- The tokens before the first end token, without the comments. -/
def significant (tokens : List Token) : List Token :=
  (tokens.takeWhile fun t => t.kind ≠ .endOfInput).filter fun t => t.kind ≠ .comment

/-- The token stands for the expression. -/
inductive Denotes : Token → Expr → Prop
  | column {name : String} : Denotes ⟨.identifier, name⟩ (.column name)
  | string {literal : String} : Denotes ⟨.stringLiteral, literal⟩
      (.literal (.string (Token.unescaped ⟨.stringLiteral, literal⟩)))
  | number {literal : String} {value : Binary64} :
      Binary64.ofText? literal.toList = some value →
      Denotes ⟨.numericLiteral, literal⟩ (.literal (.number value))
  | booleanTrue {literal : String} : literal.toList.map Char.toLower = "true".toList →
      Denotes ⟨.booleanLiteral, literal⟩ (.literal (.boolean true))
  | booleanFalse {literal : String} : literal.toList.map Char.toLower = "false".toList →
      Denotes ⟨.booleanLiteral, literal⟩ (.literal (.boolean false))
  | null {literal : String} : Denotes ⟨.nullWord, literal⟩ (.literal .null)

/-- The tokens are expressions with commas between them. -/
inductive Listed : List Token → List Expr → Prop
  | one {t : Token} {value : Expr} : Denotes t value → Listed [t] [value]
  | more {t : Token} {value : Expr} {comma : String} {tokens : List Token} {values : List Expr} :
      Denotes t value → Listed tokens values →
      Listed (t :: ⟨.comma, comma⟩ :: tokens) (value :: values)

/-- The tokens are one statement. -/
inductive Stated : List Token → Statement → Prop
  | plain {word : String} {tokens : List Token} {values : List Expr} : Listed tokens values →
      Stated (⟨.selectWord, word⟩ :: tokens) (.select ⟨values, none, none⟩)
  | fromTable {word preposition name : String} {tokens : List Token} {values : List Expr} :
      Listed tokens values →
      Stated (⟨.selectWord, word⟩ :: (tokens ++ [⟨.fromWord, preposition⟩, ⟨.identifier, name⟩]))
        (.select ⟨values, some name, none⟩)

/-- The tokens are statements with semicolons between them, and possibly one
behind the last. -/
inductive Program : List Token → List Statement → Prop
  | empty : Program [] []
  | last {tokens : List Token} {statement : Statement} : Stated tokens statement →
      Program tokens [statement]
  | more {first rest : List Token} {semicolon : String} {statement : Statement}
      {statements : List Statement} : Stated first statement → Program rest statements →
      Program (first ++ ⟨.semicolon, semicolon⟩ :: rest) (statement :: statements)

theorem Listed.values_ne_nil {tokens : List Token} {values : List Expr} (h : Listed tokens values) :
    values ≠ [] := by
  cases h <;> simp

theorem Stated.ne_nil {tokens : List Token} {statement : Statement} (h : Stated tokens statement) :
    tokens ≠ [] := by
  cases h <;> simp

end SelectLang.Grammar
