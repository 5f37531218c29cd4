/-!
# Quoted text

A string literal is its text between single quotes, with every quote of the text
written twice.

Results:
* `collapse_double`: making one quote of two undoes the doubling, for every
  text.
* `inner?_quote`: between the outer quotes of what is written stands the doubled
  text.
-/
namespace SelectLang.Quoted

/-- The single quote, which opens and closes a string literal. -/
abbrev mark : Char := '\x27'

/-- The text with every quote written twice. -/
def double : List Char → List Char
  | [] => []
  | c :: rest => if c = mark then mark :: mark :: double rest else c :: double rest

/-- The text with each pair of neighbouring quotes, taken from the left, made
one quote. -/
def collapse : List Char → List Char
  | [] => []
  | [c] => [c]
  | c :: d :: rest =>
    if c = mark ∧ d = mark then mark :: collapse rest else c :: collapse (d :: rest)

/-- The string literal of a text. -/
def quote (text : List Char) : List Char := mark :: (double text ++ [mark])

/-- What stands between a leading and a trailing quote, if the text has both. A
quote alone is not both. -/
def inner? : List Char → Option (List Char)
  | [] => none
  | c :: rest => if c = mark ∧ rest.getLast? = some mark then some rest.dropLast else none

theorem double_cons_mark (rest : List Char) :
    double (mark :: rest) = mark :: mark :: double rest := by
  simp [double]

theorem double_cons {c : Char} (h : c ≠ mark) (rest : List Char) :
    double (c :: rest) = c :: double rest := by
  simp [double, h]

theorem collapse_cons {c : Char} (h : c ≠ mark) (rest : List Char) :
    collapse (c :: rest) = c :: collapse rest := by
  cases rest <;> simp [collapse, h]

theorem collapse_double (text : List Char) : collapse (double text) = text := by
  induction text with
  | nil => rfl
  | cons c rest ih =>
    by_cases h : c = mark
    · subst h; rw [double_cons_mark]; simp [collapse, ih]
    · rw [double_cons h, collapse_cons h, ih]

theorem inner?_quote (text : List Char) : inner? (quote text) = some (double text) := by
  simp [inner?, quote]

end SelectLang.Quoted
