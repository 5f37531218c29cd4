import SelectLang.Number.Numeral
import SelectLang.Token.Basic

/-!
# Errors of reading

A list of tokens that is no program has an error: the first token that cannot
stand where it does, with its place in the list and the cause.

Results:
* `source?_eq_some_iff`: only a literal that is no numeral has a further cause
  behind it.
-/
namespace SelectLang

/-- Why a token cannot stand where it does. -/
inductive ReadError.Cause
  /-- A statement does not begin with it. -/
  | unsupportedStatement
  /-- The list of expressions is empty. -/
  | noExpressions
  /-- It is no expression. -/
  | unexpectedToken
  /-- It is no name of a table. -/
  | expectedTableName
  /-- The statement should have ended before it. -/
  | trailingTokens
  /-- Its literal is no numeral. -/
  | invalidNumber (fault : NumeralFault)
  /-- Its literal is no truth value. -/
  | invalidBoolean
  /-- It is an error of the scan. -/
  | lexical
  deriving DecidableEq

/-- The first token that cannot stand where it does, its index among the tokens,
and why. -/
structure ReadError where
  cause : ReadError.Cause
  token : Token
  position : Nat
  deriving DecidableEq

namespace ReadError

/-- The literal of the token in escaped form. -/
def shownLiteral (e : ReadError) : String := Escaped.escape e.token.literal

def message (e : ReadError) : String :=
  let place := " at position " ++ toString e.position
  match e.cause with
  | .unsupportedStatement =>
    "unsupported statement type: " ++ e.token.kind.name ++ ", literal: " ++ e.shownLiteral ++ "," ++
      place
  | .noExpressions => "no expressions found in select statement" ++ place
  | .unexpectedToken => "unexpected token " ++ e.shownLiteral ++ place
  | .expectedTableName => "expected table name, found " ++ e.shownLiteral ++ place
  | .trailingTokens => "unexpected " ++ e.shownLiteral ++ place ++ ", expected ';' or end of input"
  | .invalidNumber _ => "invalid numeric literal " ++ e.shownLiteral ++ place
  | .invalidBoolean => "invalid boolean literal " ++ e.shownLiteral ++ place
  | .lexical => "lexical error" ++ place ++ ": " ++ e.shownLiteral

/-- What is behind the error, for the one cause that has something behind it. -/
def source? (e : ReadError) : Option String :=
  match e.cause with
  | .invalidNumber fault => some fault.message
  | _ => none

theorem source?_eq_some_iff (e : ReadError) (text : String) :
    e.source? = some text ↔ ∃ fault, e.cause = .invalidNumber fault ∧ fault.message = text := by
  obtain ⟨cause, token, position⟩ := e
  cases cause <;> simp [source?]

end ReadError

end SelectLang
