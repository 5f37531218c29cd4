import SelectLang.Number.Layout
import SelectLang.Outline
import SelectLang.Text.Escaped
import SelectLang.Text.Quoted

/-!
# Expressions

An expression is the name of a column, a literal value, or the comparison of two
expressions.

The comparison `==` of values follows the numbers in them: NaN differs from
itself and the two zeros are equal.
-/
namespace SelectLang

inductive Literal
  | string (value : String)
  | number (value : Binary64)
  | boolean (value : Bool)
  | null
  deriving DecidableEq, BEq

inductive Comparison
  | equal
  | notEqual
  | less
  | lessOrEqual
  | greater
  | greaterOrEqual
  deriving DecidableEq

/-- A value in a statement, or a name for one. -/
inductive Expr
  | column (name : String)
  | literal (value : Literal)
  | compare (left : Expr) (relation : Comparison) (right : Expr)
  deriving DecidableEq, BEq

namespace Comparison

def all : List Comparison := [equal, notEqual, less, lessOrEqual, greater, greaterOrEqual]

def sign : Comparison → String
  | equal => "="
  | notEqual => "<>"
  | less => "<"
  | lessOrEqual => "<="
  | greater => ">"
  | greaterOrEqual => ">="

/-- The one-word tag of the relation in outlines. -/
def tag : Comparison → String
  | equal => "Equal"
  | notEqual => "NotEqual"
  | less => "LessThan"
  | lessOrEqual => "LessThanOrEqual"
  | greater => "GreaterThan"
  | greaterOrEqual => "GreaterThanOrEqual"

def ofTag? (text : String) : Option Comparison := all.find? fun relation => relation.tag == text

theorem ofTag?_tag (relation : Comparison) : ofTag? relation.tag = some relation := by
  cases relation <;> decide

def outline (relation : Comparison) : Outline := .atom relation.tag

end Comparison

namespace Literal

def text : Literal → String
  | string value => String.ofList (Quoted.quote value.toList)
  | number value => value.text .plain
  | boolean true => "TRUE"
  | boolean false => "FALSE"
  | null => "NULL"

def outline : Literal → Outline
  | string value => .tagged "String" (.atom (Escaped.escape value))
  | number value => .tagged "Number" (.atom (value.text .marked))
  | boolean value => .tagged "Boolean" (.atom (if value then "true" else "false"))
  | null => .atom "Null"

end Literal

namespace Expr

/-- The expression as it stands in a statement. Nothing shows how comparisons
are nested. -/
def text : Expr → String
  | column name => name
  | literal value => value.text
  | compare left relation right => left.text ++ " " ++ relation.sign ++ " " ++ right.text

def outline : Expr → Outline
  | column name => .tagged "Column" (.atom (Escaped.escape name))
  | literal value => .tagged "Literal" value.outline
  | compare left relation right =>
    .tuple "Binary" [left.outline, relation.outline, right.outline]

end Expr

end SelectLang
