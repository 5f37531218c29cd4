import SelectLang.Query.Expr

/-!
# Statements

A statement selects a list of expressions, from a table or from none, under a
condition or without one. It is written on one line; a program is its statements
with semicolons between them.

Results:
* `programText_cons`: a program is its first statement, a semicolon, and the
  program of the others.
-/
namespace SelectLang

structure Condition where
  column : String
  relation : Comparison
  value : Expr
  deriving DecidableEq, BEq

/-- What is selected, and where from. -/
structure Selection where
  expressions : List Expr
  table : Option String
  condition : Option Condition
  deriving DecidableEq, BEq

inductive Statement
  | select (selection : Selection)
  deriving DecidableEq, BEq

namespace Condition

def text (c : Condition) : String := c.column ++ " " ++ c.relation.sign ++ " " ++ c.value.text

def outline (c : Condition) : Outline :=
  .record "Condition" [
    ("column", .atom (Escaped.escape c.column)),
    ("operator", c.relation.outline),
    ("value", c.value.outline)]

end Condition

namespace Selection

def text (s : Selection) : String :=
  "SELECT " ++ ", ".intercalate (s.expressions.map Expr.text) ++
    (match s.table with
      | some name => " FROM " ++ name
      | none => "") ++
    (match s.condition with
      | some condition => " WHERE " ++ condition.text
      | none => "")

def outline (s : Selection) : Outline :=
  .record "SelectStmt" [
    ("expressions", .list (s.expressions.map Expr.outline)),
    ("table", .option (s.table.map fun name => .atom (Escaped.escape name))),
    ("where_clause", .option (s.condition.map Condition.outline))]

end Selection

namespace Statement

def text : Statement → String
  | select selection => selection.text

def outline : Statement → Outline
  | select selection => .tagged "Select" selection.outline

/-- The statements of a program with semicolons between them. -/
def programText (statements : List Statement) : String := "; ".intercalate (statements.map text)

/-- The statements of a program, each on a line of its own with a semicolon. -/
def listing (statements : List Statement) : String :=
  String.join (statements.map fun statement => statement.text ++ ";\n")

theorem programText_cons (first second : Statement) (rest : List Statement) :
    programText (first :: second :: rest) = first.text ++ "; " ++ programText (second :: rest) := by
  simp [programText, String.intercalate_cons_cons]

end Statement

end SelectLang
