import SelectLang.Outline
import SelectLang.Text.Escaped
import SelectLang.Text.Quoted

/-!
# Tokens

A token is a piece of the source text with its kind. The literal is the text
exactly as it was found: a string keeps its quotes and a word its letter case.

Results:
* `ofTag?_tag`: the tag of a kind determines it.
* `mem_of_lookup`: what is looked up in a table of kinds is an entry of it.
* `unescaped_quote`: the token of a quoted text denotes that text.
-/
namespace SelectLang

/-- What a token is. Three words have a kind of their own, since statements are
built on them; the other reserved words share one kind. -/
inductive Token.Kind
  | error
  | endOfInput
  | identifier
  | reservedWord
  | symbol
  | comment
  | stringLiteral
  | numericLiteral
  | booleanLiteral
  | nullWord
  | selectWord
  | fromWord
  | comma
  | semicolon
  deriving DecidableEq

/-- A piece of the source text and its kind. -/
structure Token where
  kind : Token.Kind
  literal : String
  deriving DecidableEq

namespace Token

namespace Kind

def all : List Kind :=
  [error, endOfInput, identifier, reservedWord, symbol, comment, stringLiteral, numericLiteral,
    booleanLiteral, nullWord, selectWord, fromWord, comma, semicolon]

/-- The name of the kind in messages and dumps. -/
def name : Kind → String
  | error => "error"
  | endOfInput => "end of input"
  | identifier => "identifier"
  | reservedWord => "keyword"
  | symbol => "symbol"
  | comment => "comment"
  | stringLiteral => "string literal"
  | numericLiteral => "numeric literal"
  | booleanLiteral => "boolean literal"
  | nullWord => "NULL"
  | selectWord => "SELECT"
  | fromWord => "FROM"
  | comma => "comma"
  | semicolon => "semicolon"

/-- The one-word tag of the kind in outlines. -/
def tag : Kind → String
  | error => "Error"
  | endOfInput => "EOF"
  | identifier => "Identifier"
  | reservedWord => "Keyword"
  | symbol => "Symbol"
  | comment => "Comment"
  | stringLiteral => "StringLiteral"
  | numericLiteral => "NumericLiteral"
  | booleanLiteral => "BooleanLiteral"
  | nullWord => "Null"
  | selectWord => "Select"
  | fromWord => "From"
  | comma => "Comma"
  | semicolon => "Semicolon"

def ofTag? (text : String) : Option Kind := all.find? fun kind => kind.tag == text

theorem mem_all (kind : Kind) : kind ∈ all := by cases kind <;> decide

theorem ofTag?_tag (kind : Kind) : ofTag? kind.tag = some kind := by cases kind <;> decide

theorem mem_of_lookup {table : List (String × Kind)} {text : String} {kind : Kind}
    (h : table.lookup text = some kind) : (text, kind) ∈ table := by
  obtain ⟨before, behind, e, -⟩ := List.lookup_eq_some_iff.mp h
  exact e ▸ List.mem_append_cons_self

end Kind

/-- The token after the last character of a text. -/
def atEnd : Token := ⟨.endOfInput, ""⟩

/-- Whether the token denotes a value. -/
def isLiteral (t : Token) : Bool :=
  match t.kind with
  | .stringLiteral | .numericLiteral | .booleanLiteral | .nullWord => true
  | _ => false

/-- The literal, without the outer quotes if it is that of a string and has
both. -/
def rawValue (t : Token) : List Char :=
  if t.kind = .stringLiteral then (Quoted.inner? t.literal.toList).getD t.literal.toList
  else t.literal.toList

/-- The text that the token denotes: without outer quotes, and with each pair of
quotes made one. -/
def unescaped (t : Token) : String := String.ofList (Quoted.collapse t.rawValue)

/-- The token in one line: the name of its kind and its literal in escaped form. -/
def text (t : Token) : String := t.kind.name ++ "(" ++ Escaped.escape t.literal ++ ")"

def outline (t : Token) : Outline :=
  .record "Token" [("kind", .atom t.kind.tag), ("literal", .atom (Escaped.escape t.literal))]

theorem unescaped_quote (value : List Char) :
    unescaped ⟨.stringLiteral, String.ofList (Quoted.quote value)⟩ = String.ofList value := by
  simp [unescaped, rawValue, Quoted.inner?_quote, Quoted.collapse_double]

end Token

end SelectLang
