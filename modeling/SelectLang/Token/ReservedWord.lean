import SelectLang.Token.Basic
import SelectLang.Unicode.UpperCase

/-!
# Reserved words

Eighteen words are reserved in every letter case: a word is looked up by its
full upper-case form. `SELECT`, `FROM` and `NULL` have kinds of their own, the
two truth values are literals, and the rest are set aside for statements to
come.

Results:
* `find?_congr`: only the upper-case form of a word counts.
* `kindOf_cases`: a word is an identifier, or its kind stands in the table.
-/
namespace SelectLang.ReservedWord

open SelectLang.Unicode

/-- The reserved words in upper case, with their kinds. -/
def table : List (String × Token.Kind) := [
  ("SELECT", .selectWord), ("FROM", .fromWord), ("NULL", .nullWord),
  ("TRUE", .booleanLiteral), ("FALSE", .booleanLiteral),
  ("WHERE", .reservedWord), ("AND", .reservedWord), ("OR", .reservedWord),
  ("NOT", .reservedWord), ("AS", .reservedWord), ("INSERT", .reservedWord),
  ("INTO", .reservedWord), ("VALUES", .reservedWord), ("UPDATE", .reservedWord),
  ("SET", .reservedWord), ("DELETE", .reservedWord), ("CREATE", .reservedWord),
  ("TABLE", .reservedWord)]

/-- The kind of a reserved word, in whatever case it is written. -/
def find? (text : String) : Option Token.Kind := table.lookup (upperCase text)

/-- The kind of a word: that of the reserved word, or else an identifier. -/
def kindOf (text : String) : Token.Kind := (find? text).getD .identifier

theorem find?_congr {s t : String} (h : upperCase s = upperCase t) : find? s = find? t := by
  simp only [find?, h]

theorem kindOf_cases (text : String) :
    kindOf text = .identifier ∨ (upperCase text, kindOf text) ∈ table := by
  unfold kindOf
  cases h : find? text with
  | none => exact .inl rfl
  | some kind => exact .inr (Token.Kind.mem_of_lookup h)

end SelectLang.ReservedWord
