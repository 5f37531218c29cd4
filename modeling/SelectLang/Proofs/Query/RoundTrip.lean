import SelectLang.Proofs.Number.ReadBack
import SelectLang.Proofs.Query.Derivation
import SelectLang.Proofs.Token.Written

/-!
# Reading written programs

A program that is written from names and literals is read as the statements it
was written from. Its text is cut into one token for each piece, and these are a
derivation of the statements.

* `Simple number`: an expression, a selection or a statement of names and
  literals, without a condition, in which every number has the property.
* `Binary64.Plain`: the number is written as digits, without a sign.

Results:
* `exists_listed`, `exists_stated`, `exists_program`: the text of a list of
  expressions, of a statement and of a program is cut into tokens that derive it.
* `parse_programText`: so a program of plain numbers is read back.
-/
namespace SelectLang

open SelectLang.Token SelectLang.Grammar

/-! ## Programs that can be written -/

/-- The number is written as digits, without a sign. -/
structure Binary64.Plain (x : Binary64) : Prop where
  finite : x.isFinite
  positive : x.negative = false

/-- A name or a literal; if that is a number, it has the property. -/
def Expr.Simple (number : Binary64 → Prop) : Expr → Prop
  | .column name => IsName name
  | .literal (.number x) => number x
  | .literal _ => True
  | .compare _ _ _ => False

/-- Simple expressions, at least one, and no condition. -/
structure Selection.Simple (number : Binary64 → Prop) (s : Selection) : Prop where
  expressions_ne_nil : s.expressions ≠ []
  expressions : ∀ e ∈ s.expressions, e.Simple number
  table : ∀ name ∈ s.table, IsName name
  condition : s.condition = none

def Statement.Simple (number : Binary64 → Prop) : Statement → Prop
  | .select selection => selection.Simple number

section Decidable

variable {number : Binary64 → Prop} [DecidablePred number]

instance : DecidablePred Binary64.Plain := fun x =>
  decidable_of_iff (x.isFinite ∧ x.negative = false) ⟨fun h => ⟨h.1, h.2⟩, fun h => ⟨h.1, h.2⟩⟩

instance : DecidablePred (Expr.Simple number)
  | .column name => inferInstanceAs (Decidable (IsName name))
  | .literal (.number x) => inferInstanceAs (Decidable (number x))
  | .literal (.string _) => .isTrue trivial
  | .literal (.boolean _) => .isTrue trivial
  | .literal .null => .isTrue trivial
  | .compare _ _ _ => .isFalse id

instance : DecidablePred (Selection.Simple number) := fun s =>
  decidable_of_iff (s.expressions ≠ [] ∧ (∀ e ∈ s.expressions, e.Simple number) ∧
      (∀ name ∈ s.table, IsName name) ∧ s.condition = none)
    ⟨fun h => ⟨h.1, h.2.1, h.2.2.1, h.2.2.2⟩, fun h => ⟨h.1, h.2, h.3, h.4⟩⟩

instance : DecidablePred (Statement.Simple number)
  | .select selection => inferInstanceAs (Decidable (selection.Simple number))

end Decidable

/-! ## Tokens of a derivation -/

namespace Grammar

theorem significant_eq_self {tokens : List Token}
    (h : ∀ t ∈ tokens, t.kind ≠ .comment ∧ t.kind ≠ .endOfInput) : significant tokens = tokens := by
  induction tokens with
  | nil => rfl
  | cons t rest ih =>
    obtain ⟨⟨comment, ending⟩, others⟩ := List.forall_mem_cons.mp h
    rw [significant_cons comment ending, ih others]

/-- The kinds of the tokens that a program is made of. -/
def programKinds : List Token.Kind :=
  [.identifier, .stringLiteral, .numericLiteral, .booleanLiteral, .nullWord, .selectWord,
    .fromWord, .comma, .semicolon]

theorem Denotes.kind_mem {t : Token} {value : Expr} (h : Denotes t value) :
    t.kind ∈ programKinds := by
  cases h <;> simp [programKinds]

theorem Listed.kind_mem {tokens : List Token} {values : List Expr} (h : Listed tokens values) :
    ∀ t ∈ tokens, t.kind ∈ programKinds := by
  induction h with
  | one denotes => simpa using denotes.kind_mem
  | more denotes _ ih =>
    exact List.forall_mem_cons.mpr
      ⟨denotes.kind_mem, List.forall_mem_cons.mpr ⟨by simp [programKinds], ih⟩⟩

theorem Stated.kind_mem {tokens : List Token} {statement : Statement}
    (h : Stated tokens statement) : ∀ t ∈ tokens, t.kind ∈ programKinds := by
  cases h with
  | plain listed => exact List.forall_mem_cons.mpr ⟨by simp [programKinds], listed.kind_mem⟩
  | fromTable listed =>
    refine List.forall_mem_cons.mpr ⟨by simp [programKinds],
      List.forall_mem_append.mpr ⟨listed.kind_mem, ?_⟩⟩
    simp [programKinds]

theorem Program.kind_mem {tokens : List Token} {statements : List Statement}
    (h : Program tokens statements) : ∀ t ∈ tokens, t.kind ∈ programKinds := by
  induction h with
  | empty => simp
  | last stated => exact stated.kind_mem
  | more stated _ ih =>
    exact List.forall_mem_append.mpr
      ⟨stated.kind_mem, List.forall_mem_cons.mpr ⟨by simp [programKinds], ih⟩⟩

theorem Program.significant {tokens : List Token} {statements : List Statement}
    (h : Program tokens statements) :
    ∀ t ∈ tokens, t.kind ≠ .comment ∧ t.kind ≠ .endOfInput := by
  have plain : ∀ kind ∈ programKinds, kind ≠ .comment ∧ kind ≠ .endOfInput := by decide
  exact fun t ht => plain _ (h.kind_mem t ht)

end Grammar

/-! ## Texts of expressions -/

theorem solid_literal {value : Literal} (h : (Expr.literal value).Simple Binary64.Plain) :
    ∃ kind, Solid kind value.text.toList ∧ Denotes ⟨kind, value.text⟩ (.literal value) := by
  cases value with
  | string value =>
    have denotes : Denotes ⟨_, String.ofList (Quoted.quote value.toList)⟩ _ := .string
    rw [unescaped_quote, String.ofList_toList] at denotes
    refine ⟨.stringLiteral, ?_, denotes⟩
    rw [Literal.text, String.toList_ofList]
    exact solid_quote value.toList
  | number x =>
    have plain : x.Plain := h
    exact ⟨.numericLiteral, solid_numeral (x.isNumeral_text plain.finite plain.positive),
      .number (x.ofText?_text plain.finite plain.positive)⟩
  | boolean value =>
    cases value with
    | true => exact ⟨.booleanLiteral, solid_reserved (by decide), .booleanTrue (by decide)⟩
    | false => exact ⟨.booleanLiteral, solid_reserved (by decide), .booleanFalse (by decide)⟩
  | null => exact ⟨.nullWord, solid_reserved (by decide), .null⟩

/-- The text of a simple expression is one token, which stands for it. -/
theorem solid_expr {e : Expr} (h : e.Simple Binary64.Plain) :
    ∃ kind, Solid kind e.text.toList ∧ Denotes ⟨kind, e.text⟩ e := by
  cases e with
  | column name => exact ⟨.identifier, solid_name h, .column⟩
  | literal value => exact solid_literal h
  | compare left relation right => exact h.elim

theorem exists_listed {values : List Expr} (ne : values ≠ [])
    (h : ∀ e ∈ values, e.Simple Binary64.Plain) :
    ∃ tokens, Listed tokens values ∧
      Cuts (", ".intercalate (values.map Expr.text)).toList tokens := by
  induction values with
  | nil => exact absurd rfl ne
  | cons e rest ih =>
    obtain ⟨simple, others⟩ := List.forall_mem_cons.mp h
    obtain ⟨kind, solid, denotes⟩ := solid_expr simple
    cases rest with
    | nil => exact ⟨_, .one denotes, by simpa using solid.cuts⟩
    | cons e' rest =>
      obtain ⟨tokens, listed, cuts⟩ := ih (by simp) others
      refine ⟨⟨kind, e.text⟩ :: ⟨.comma, ","⟩ :: tokens, .more denotes listed, ?_⟩
      have text : (", ".intercalate ((e :: e' :: rest).map Expr.text)).toList =
          e.text.toList ++ ',' :: ' ' ::
            (", ".intercalate ((e' :: rest).map Expr.text)).toList := by
        simp [String.intercalate_cons_cons]
      rw [text]
      exact solid.cuts.separated (by decide) (by simp) cuts

/-! ## Texts of statements -/

theorem Selection.exists_stated {s : Selection} (h : s.Simple Binary64.Plain) :
    ∃ tokens, Stated tokens (.select s) ∧ Cuts s.text.toList tokens := by
  obtain ⟨values, table, condition⟩ := s
  obtain ⟨ne, simple, isName, rfl⟩ := h
  obtain ⟨tokens, listed, cuts⟩ := exists_listed ne simple
  have select : Cuts "SELECT".toList [⟨.selectWord, "SELECT"⟩] := (solid_reserved (by decide)).cuts
  have begins := select.spaced cuts
  cases table with
  | none => exact ⟨_, .plain listed, by simpa [Selection.text] using begins⟩
  | some name =>
    have preposition : Cuts "FROM".toList [⟨.fromWord, "FROM"⟩] := (solid_reserved (by decide)).cuts
    have ends := preposition.spaced (solid_name (isName name rfl)).cuts
    exact ⟨_, .fromTable listed, by simpa [Selection.text] using begins.spaced ends⟩

theorem exists_stated {s : Statement} (h : s.Simple Binary64.Plain) :
    ∃ tokens, Stated tokens s ∧ Cuts s.text.toList tokens := by
  cases s with
  | select selection => exact Selection.exists_stated h

theorem exists_program {statements : List Statement}
    (h : ∀ s ∈ statements, s.Simple Binary64.Plain) :
    ∃ tokens, Program tokens statements ∧
      Cuts (Statement.programText statements).toList tokens := by
  induction statements with
  | nil => exact ⟨[], .empty, cuts_nil⟩
  | cons s rest ih =>
    obtain ⟨simple, others⟩ := List.forall_mem_cons.mp h
    obtain ⟨first, stated, begins⟩ := exists_stated simple
    cases rest with
    | nil => exact ⟨first, .last stated, by simpa [Statement.programText] using begins⟩
    | cons s' rest =>
      obtain ⟨tokens, program, cuts⟩ := ih others
      refine ⟨first ++ ⟨.semicolon, ";"⟩ :: tokens, .more stated program, ?_⟩
      have text : (Statement.programText (s :: s' :: rest)).toList =
          s.text.toList ++ ';' :: ' ' :: (Statement.programText (s' :: rest)).toList := by
        simp [Statement.programText_cons]
      rw [text]
      exact begins.separated (by decide) (by simp) cuts

theorem parse_of_cuts {text : String} {tokens : List Token} {statements : List Statement}
    (program : Program tokens statements) (cuts : Cuts text.toList tokens) :
    parse text = .ok statements := by
  rw [parse, readTokens_eq_ok, cuts.lex_eq, significant_append_end,
    significant_eq_self program.significant]
  exact program

/-- **What is written is read back.** A program of names, of plain numbers and of
any other literals is read from its text as the statements it was written from,
whatever stands in its strings. -/
theorem parse_programText {statements : List Statement}
    (h : ∀ s ∈ statements, s.Simple Binary64.Plain) :
    parse (Statement.programText statements) = .ok statements := by
  obtain ⟨tokens, program, cuts⟩ := exists_program h
  exact parse_of_cuts program cuts

/-- Statements with every kind of expression. The string has a quote, a NUL, a
comment and a semicolon in it, and the number is a tenth. -/
def mixedProgram : List Statement := [
  .select ⟨[.literal (.string "it\x27s\x00; -- \n\x27\x27"), .column "größe_1",
    .literal (.number ⟨false, 0x3FB999999999999A, by decide⟩)], some "t", none⟩,
  .select ⟨[.literal (.boolean true), .literal .null], none, none⟩]

theorem parse_mixedProgram : (∀ s ∈ mixedProgram, s.Simple Binary64.Plain) ∧
    parse (Statement.programText mixedProgram) = .ok mixedProgram :=
  have simple : ∀ s ∈ mixedProgram, s.Simple Binary64.Plain := by decide +kernel
  ⟨simple, parse_programText simple⟩

end SelectLang
