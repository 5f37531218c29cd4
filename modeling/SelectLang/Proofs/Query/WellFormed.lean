import SelectLang.Proofs.Query.Reread
import SelectLang.Proofs.Query.Restart

/-!
# Well-formed statements

What every statement that is read is like. It has an expression, no comparison and
no condition, whatever the tokens are. If the tokens are those of a text, its names
are names and its numbers are not negative, so that it is equal to itself.

* `Statement.Bare`: at least one expression, no comparison, no condition.
* `Statement.WellFormed`: also, the names are identifiers and the numbers neither
  NaN nor signed.

Results:
* `Program.bare`: the statements of a derivation are bare.
* `exists_readTokens_of_results`: what a call of a session reads is what stands
  behind some beginning of the tokens.
* `Statement.Simple.wellFormed`, `Statement.Simple.beq_self`: what a simple statement
  without signs is like.
* `wellFormed_of_read`: the statements that are read.
-/
namespace SelectLang

open SelectLang.Token SelectLang.Grammar

/-! ## Statements that can be read -/

/-- At least one expression, no comparison among them, and no condition. -/
structure Selection.Bare (s : Selection) : Prop where
  expressions_ne_nil : s.expressions ≠ []
  no_compare : ∀ left relation right, .compare left relation right ∉ s.expressions
  condition : s.condition = none

/-- The names of columns and of the table are identifiers, and the numbers are
neither NaN nor signed. -/
structure Selection.WellFormed (s : Selection) : Prop extends s.Bare where
  columns : ∀ name, .column name ∈ s.expressions → name ≠ "" ∧ IsName name
  table : ∀ name, s.table = some name → name ≠ "" ∧ IsName name
  numbers : ∀ x, .literal (.number x) ∈ s.expressions → x.isNaN = false ∧ x.negative = false

def Statement.Bare : Statement → Prop
  | .select selection => selection.Bare

def Statement.WellFormed : Statement → Prop
  | .select selection => selection.WellFormed

/-! ## From any tokens -/

namespace Grammar

theorem Denotes.ne_compare {t : Token} {e : Expr} (h : Denotes t e) (left : Expr)
    (relation : Comparison) (right : Expr) : e ≠ .compare left relation right := by
  cases h <;> simp

theorem Listed.no_compare {tokens : List Token} {values : List Expr} (h : Listed tokens values)
    (left : Expr) (relation : Comparison) (right : Expr) :
    .compare left relation right ∉ values := by
  induction h with
  | one denotes => simpa using (denotes.ne_compare left relation right).symm
  | more denotes _ ih =>
    exact List.not_mem_cons_of_ne_of_not_mem (denotes.ne_compare left relation right).symm ih

theorem Stated.bare {tokens : List Token} {s : Statement} (h : Stated tokens s) : s.Bare := by
  cases h with
  | plain listed => exact ⟨listed.values_ne_nil, listed.no_compare, rfl⟩
  | fromTable listed => exact ⟨listed.values_ne_nil, listed.no_compare, rfl⟩

theorem Program.bare {tokens : List Token} {statements : List Statement}
    (h : Program tokens statements) : ∀ s ∈ statements, s.Bare := by
  induction h with
  | empty => simp
  | last stated => simpa using stated.bare
  | more stated _ ih => exact List.forall_mem_cons.mpr ⟨stated.bare, ih⟩

end Grammar

theorem bare_of_readTokens {tokens : List Token} {statements : List Statement}
    (h : readTokens tokens = .ok statements) : ∀ s ∈ statements, s.Bare :=
  ((readTokens_eq_ok tokens statements).mp h).bare

theorem ok_of_mapError {ε ε' α : Type} {f : ε → ε'} {result : Except ε α} {a : α}
    (h : result.mapError f = .ok a) : result = .ok a := by
  cases result with
  | error e => cases h
  | ok b =>
    cases h
    rfl

theorem exists_readTokens_of_results {tokens : List Token} {calls : Nat}
    {statements : List Statement}
    (h : .ok statements ∈ (Session.ofTokens tokens).results calls) :
    ∃ n, readTokens (tokens.drop n) = .ok statements := by
  obtain ⟨n, read⟩ := Session.exists_readTokens_of_mem h
  exact ⟨n, ok_of_mapError read.symm⟩

/-! ## From a text -/

theorem Token.IsName.ne_empty {name : String} (h : IsName name) : name ≠ "" := by
  obtain ⟨c, run, letters, -⟩ := (isName_iff name).mp h
  rintro rfl
  cases letters

namespace Statement

variable {s : Statement}

theorem Simple.wellFormed (h : s.Simple Binary64.Unsigned) : s.WellFormed := by
  obtain ⟨selection⟩ := s
  have columns (name : String) (mem : .column name ∈ selection.expressions) : IsName name :=
    h.expressions (.column name) mem
  have numbers (x : Binary64) (mem : .literal (.number x) ∈ selection.expressions) : x.Unsigned :=
    h.expressions (.literal (.number x)) mem
  refine ⟨⟨h.expressions_ne_nil, ?_, h.condition⟩, ?_, ?_, ?_⟩
  · intro left relation right mem
    exact (h.expressions _ mem).elim
  · intro name mem
    exact ⟨(columns name mem).ne_empty, columns name mem⟩
  · intro name found
    have isName := h.table name found
    exact ⟨isName.ne_empty, isName⟩
  · intro x mem
    exact ⟨(numbers x mem).not_nan, (numbers x mem).positive⟩

theorem Simple.beq_self (h : s.Simple Binary64.Unsigned) : (s == s) = true := by
  obtain ⟨selection⟩ := s
  have unfolded : (Statement.select selection == .select selection) =
      (selection.expressions == selection.expressions &&
        (selection.table == selection.table && selection.condition == selection.condition)) := rfl
  have expressions : (selection.expressions.map id == selection.expressions) = true :=
    (map_beq_self_iff id _).mpr fun e mem => Expr.beq_self (h.expressions e mem)
  rw [List.map_id] at expressions
  rw [unfolded, expressions, beq_self_eq_true, h.condition]
  rfl

end Statement

theorem beq_self_of_parse {source : String} {statements : List Statement}
    (h : parse source = .ok statements) : (statements == statements) = true := by
  have each : (statements.map id == statements) = true :=
    (map_beq_self_iff id _).mpr fun s mem => (simple_of_parse h s mem).beq_self
  rwa [List.map_id] at each

/-- **What is read is well formed.** Every statement that is read from a text has an
expression, no comparison and no condition, its names are identifiers and its numbers
neither NaN nor signed; and what is read is equal to itself. Of other tokens, and in
every call of a session, only bare statements are read. -/
theorem wellFormed_of_read :
    (∀ source statements, parse source = .ok statements →
      (∀ s ∈ statements, s.WellFormed) ∧ (statements == statements) = true) ∧
    ∀ tokens calls statements, readTokens tokens = .ok statements ∨
      .ok statements ∈ (Session.ofTokens tokens).results calls → ∀ s ∈ statements, s.Bare := by
  refine ⟨fun source statements read => ?_, fun tokens calls statements read => ?_⟩
  · exact ⟨fun s mem => (simple_of_parse read s mem).wellFormed, beq_self_of_parse read⟩
  · rcases read with read | mem
    · exact bare_of_readTokens read
    · obtain ⟨n, read⟩ := exists_readTokens_of_results mem
      exact bare_of_readTokens read

/-- A text with a comment, a string that looks like one, names outside ASCII and a
numeral that ends in a point. -/
def variedSource : String :=
  "select größe, \x27--\x27, 2. -- c\n from _t1; SELECT falsE"

def variedStatements : List Statement := [
  .select ⟨[.column "größe", .literal (.string "--"),
    .literal (.number ⟨false, 0x4000000000000000, by decide⟩)], some "_t1", none⟩,
  .select ⟨[.literal (.boolean false)], none, none⟩]

/-- Tokens that no text has: behind an error, a numeral that is read as NaN. -/
def foreignTokens : List Token :=
  [⟨.selectWord, ""⟩, ⟨.selectWord, "select"⟩, ⟨.numericLiteral, "nan"⟩]

def nanStatement : Statement := .select ⟨[.literal (.number .nan)], none, none⟩

theorem wellFormed_of_read_varied :
    parse variedSource = .ok variedStatements ∧ (∀ s ∈ variedStatements, s.WellFormed) ∧
      (variedStatements == variedStatements) = true ∧
      .ok [nanStatement] ∈ (Session.ofTokens foreignTokens).results 3 ∧
      (∀ s ∈ [nanStatement], s.Bare) ∧ ([nanStatement] == [nanStatement]) = false := by
  have read : parse variedSource = .ok variedStatements := by decide +kernel
  have called : .ok [nanStatement] ∈ (Session.ofTokens foreignTokens).results 3 := by
    decide +kernel
  obtain ⟨formed, equal⟩ := wellFormed_of_read.1 _ _ read
  exact ⟨read, formed, equal, called, wellFormed_of_read.2 _ _ _ (.inr called), by decide⟩

end SelectLang
