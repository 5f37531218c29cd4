import SelectLang.Proofs.Query.RoundTrip

/-!
# Reading a read program again

What is read from a text are names and literals, and no number has a sign. A
numeral past the range of doubles is read as infinity, though, and infinity is
written as a word: when that is read again, it is the name of a column. All else
is read as it was.

* `Binary64.Unsigned`: the number has no sign and is not NaN.
* `Statement.reread`: the statement with the column `inf` in place of each
  infinite number.

Results:
* `Program.simple`: the statements of a program are simple, and their numbers
  without sign.
* `Statement.text_reread`, `Statement.simple_reread`: the statement after a second
  reading has the same text, and can be read back from it.
* `parse_programText_of_parse`: the second reading, and when it is equal to the
  first.
-/
namespace SelectLang

open SelectLang.Token SelectLang.Grammar

/-- The number has no sign and is not NaN. -/
structure Binary64.Unsigned (x : Binary64) : Prop where
  positive : x.negative = false
  not_nan : x.isNaN = false

/-! ## What is read from a text -/

namespace Grammar

theorem Denotes.simple {t : Token} {e : Expr} (h : Denotes t e) (lawful : t.Lawful) :
    e.Simple Binary64.Unsigned := by
  cases h with
  | column => exact lawful.isName rfl
  | number read =>
    obtain ⟨d, value⟩ := Numeral.ofText?_numeral (lawful.isNumeral rfl)
    obtain rfl := Option.some.inj (read.symm.trans value)
    exact ⟨rfl, Binary64.isNaN_ofDecimal false d⟩
  | string => trivial
  | booleanTrue _ => trivial
  | booleanFalse _ => trivial
  | null => trivial

theorem Listed.simple {tokens : List Token} {values : List Expr} (h : Listed tokens values)
    (lawful : ∀ t ∈ tokens, t.Lawful) : ∀ e ∈ values, e.Simple Binary64.Unsigned := by
  induction h with
  | one denotes =>
    rw [List.forall_mem_singleton] at lawful ⊢
    exact denotes.simple lawful
  | more denotes _ ih =>
    obtain ⟨first, rest⟩ := List.forall_mem_cons.mp lawful
    exact List.forall_mem_cons.mpr ⟨denotes.simple first, ih (List.forall_mem_cons.mp rest).2⟩

theorem Stated.simple {tokens : List Token} {s : Statement} (h : Stated tokens s)
    (lawful : ∀ t ∈ tokens, t.Lawful) : s.Simple Binary64.Unsigned := by
  cases h with
  | plain listed =>
    have inner := (List.forall_mem_cons.mp lawful).2
    exact ⟨listed.values_ne_nil, listed.simple inner, by simp, rfl⟩
  | @fromTable _ _ name _ _ listed =>
    obtain ⟨inner, table⟩ := List.forall_mem_append.mp (List.forall_mem_cons.mp lawful).2
    have isName : IsName name := (table ⟨.identifier, name⟩ (by simp)).isName rfl
    exact ⟨listed.values_ne_nil, listed.simple inner, by simpa using isName, rfl⟩

theorem Program.simple {tokens : List Token} {statements : List Statement}
    (h : Program tokens statements) (lawful : ∀ t ∈ tokens, t.Lawful) :
    ∀ s ∈ statements, s.Simple Binary64.Unsigned := by
  induction h with
  | empty => simp
  | last stated =>
    rw [List.forall_mem_singleton]
    exact stated.simple lawful
  | more stated _ ih =>
    obtain ⟨first, rest⟩ := List.forall_mem_append.mp lawful
    exact List.forall_mem_cons.mpr ⟨stated.simple first, ih (List.forall_mem_cons.mp rest).2⟩

theorem mem_of_significant {t : Token} {tokens : List Token} (h : t ∈ significant tokens) :
    t ∈ tokens :=
  (List.takeWhile_sublist _).mem (List.mem_of_mem_filter h)

end Grammar

theorem simple_of_parse {source : String} {statements : List Statement}
    (h : parse source = .ok statements) : ∀ s ∈ statements, s.Simple Binary64.Unsigned :=
  ((readTokens_eq_ok _ _).mp h).simple fun _ ht =>
    (lexes_lex source).lawful _ (mem_of_significant ht)

/-! ## The second reading -/

/-- The expression as it is read from its text: infinity becomes the column of
that name. -/
def Expr.reread : Expr → Expr
  | .literal (.number x) => if x.isInfinite then .column "inf" else .literal (.number x)
  | e => e

def Selection.reread (s : Selection) : Selection :=
  { s with expressions := s.expressions.map Expr.reread }

def Statement.reread : Statement → Statement
  | .select selection => .select selection.reread

theorem Expr.reread_cases (e : Expr) :
    (∃ x, e = .literal (.number x) ∧ x.isInfinite ∧ e.reread = .column "inf") ∨
      e.reread = e ∧ ∀ x, e = .literal (.number x) → x.isInfinite = false := by
  unfold reread
  split
  · next x =>
    cases infinite : x.isInfinite with
    | true => exact .inl ⟨x, rfl, infinite, rfl⟩
    | false =>
      refine .inr ⟨rfl, ?_⟩
      intro y same
      cases same
      exact infinite
  · next other => exact .inr ⟨rfl, fun x same => absurd same (other x)⟩

theorem Expr.Simple.imp {p q : Binary64 → Prop} {e : Expr} (h : e.Simple p)
    (step : ∀ x, e = .literal (.number x) → p x → q x) : e.Simple q := by
  cases e with
  | column name => exact h
  | literal value =>
    cases value with
    | number x => exact step x rfl h
    | _ => trivial
  | compare left relation right => exact h.elim

theorem Binary64.Unsigned.plain {x : Binary64} (h : x.Unsigned) (finite : x.isInfinite = false) :
    x.Plain :=
  ⟨x.isFinite_iff.mpr ⟨h.not_nan, finite⟩, h.positive⟩

theorem Expr.text_reread {e : Expr} (h : e.Simple Binary64.Unsigned) : e.reread.text = e.text := by
  rcases e.reread_cases with ⟨x, rfl, infinite, same⟩ | ⟨same, -⟩
  · have unsigned : x.Unsigned := h
    rw [same]
    simp [text, Literal.text, Binary64.text, unsigned.not_nan, unsigned.positive, infinite]
  · rw [same]

theorem Expr.simple_reread {e : Expr} (h : e.Simple Binary64.Unsigned) :
    e.reread.Simple Binary64.Plain := by
  rcases e.reread_cases with ⟨x, rfl, infinite, same⟩ | ⟨same, finite⟩
  · have isName : IsName "inf" := by decide +kernel
    rw [same]
    exact isName
  · rw [same]
    exact h.imp fun x number unsigned => unsigned.plain (finite x number)

theorem Statement.text_reread {s : Statement} (h : s.Simple Binary64.Unsigned) :
    s.reread.text = s.text := by
  obtain ⟨selection⟩ := s
  have same : selection.reread.expressions.map Expr.text = selection.expressions.map Expr.text := by
    rw [Selection.reread, List.map_map]
    exact List.map_congr_left fun e he => Expr.text_reread (h.expressions e he)
  simp only [reread, text, Selection.text, same]
  rfl

theorem Statement.simple_reread {s : Statement} (h : s.Simple Binary64.Unsigned) :
    s.reread.Simple Binary64.Plain := by
  obtain ⟨selection⟩ := s
  obtain ⟨ne, simple, table, condition⟩ := h
  refine ⟨by simpa [Selection.reread] using ne, fun e he => ?_, table, condition⟩
  obtain ⟨e', mem, rfl⟩ := List.mem_map.mp he
  exact Expr.simple_reread (simple e' mem)

theorem map_text_reread {statements : List Statement}
    (h : ∀ s ∈ statements, s.Simple Binary64.Unsigned) :
    (statements.map Statement.reread).map Statement.text = statements.map Statement.text := by
  rw [List.map_map]
  exact List.map_congr_left fun s hs => Statement.text_reread (h s hs)

theorem programText_reread {statements : List Statement}
    (h : ∀ s ∈ statements, s.Simple Binary64.Unsigned) :
    Statement.programText (statements.map Statement.reread) = Statement.programText statements := by
  rw [Statement.programText, map_text_reread h, Statement.programText]

theorem simple_map_reread {statements : List Statement}
    (h : ∀ s ∈ statements, s.Simple Binary64.Unsigned) :
    ∀ s ∈ statements.map Statement.reread, s.Simple Binary64.Plain := by
  rw [List.forall_mem_map]
  exact fun s hs => Statement.simple_reread (h s hs)

/-! ## Equality of the readings -/

theorem map_beq_self_iff {α : Type} [BEq α] (f : α → α) (as : List α) :
    (as.map f == as) = true ↔ ∀ a ∈ as, (f a == a) = true := by
  induction as with
  | nil => simp
  | cons a rest ih => simp [ih]

theorem Expr.beq_self {e : Expr} (h : e.Simple Binary64.Unsigned) : (e == e) = true := by
  cases e with
  | column name => exact beq_self_eq_true name
  | literal value =>
    cases value with
    | string value => exact beq_self_eq_true value
    | number x => exact Binary64.beq_self x (Binary64.Unsigned.not_nan h)
    | boolean value => exact beq_self_eq_true value
    | null => rfl
  | compare left relation right => exact h.elim

theorem Expr.reread_beq_iff {e : Expr} (h : e.Simple Binary64.Unsigned) :
    (e.reread == e) = true ↔ ∀ x, e = .literal (.number x) → x.isFinite := by
  rcases e.reread_cases with ⟨x, rfl, infinite, same⟩ | ⟨same, finite⟩
  · have differ : (Expr.column "inf" == .literal (.number x)) = false := rfl
    have not_finite : ¬ x.isFinite := fun finite => by
      rw [(x.isFinite_iff.mp finite).2] at infinite
      cases infinite
    rw [same, differ]
    exact ⟨by simp, fun all => absurd (all x rfl) not_finite⟩
  · rw [same, Expr.beq_self h]
    refine ⟨fun _ x number => ?_, fun _ => rfl⟩
    have unsigned : x.Unsigned := by
      subst number
      exact h
    exact (unsigned.plain (finite x number)).finite

theorem Statement.reread_beq_iff {selection : Selection}
    (h : selection.Simple Binary64.Unsigned) :
    ((Statement.select selection).reread == .select selection) = true ↔
      ∀ x, .literal (.number x) ∈ selection.expressions → x.isFinite := by
  have unfolded : ((Statement.select selection).reread == .select selection) =
      (selection.expressions.map Expr.reread == selection.expressions &&
        (selection.table == selection.table && selection.condition == selection.condition)) := rfl
  have condition : (selection.condition == selection.condition) = true := by
    rw [h.condition]
    rfl
  rw [unfolded, condition, beq_self_eq_true, Bool.and_true, Bool.and_true, map_beq_self_iff]
  refine ⟨?_, ?_⟩
  · intro all x mem
    exact (Expr.reread_beq_iff (h.expressions _ mem)).mp (all _ mem) x rfl
  · intro finite e mem
    exact (Expr.reread_beq_iff (h.expressions e mem)).mpr fun x number => finite x (number ▸ mem)

/-- **The second reading.** What is read is written and read again with the
column `inf` in place of each infinite number; it is equal to the first exactly
if no numeral was past the range of doubles. -/
theorem parse_programText_of_parse {source : String} {statements : List Statement}
    (h : parse source = .ok statements) :
    parse (Statement.programText statements) = .ok (statements.map Statement.reread) ∧
      ((∃ again, parse (Statement.programText statements) = .ok again ∧
          (again == statements) = true) ↔
        ∀ selection x, .select selection ∈ statements →
          .literal (.number x) ∈ selection.expressions → x.isFinite) := by
  have simple := simple_of_parse h
  have reread :
      parse (Statement.programText statements) = .ok (statements.map Statement.reread) := by
    obtain ⟨tokens, program, cuts⟩ := exists_program fun s hs => by
      obtain ⟨s', mem, rfl⟩ := List.mem_map.mp hs
      exact Statement.simple_reread (simple s' mem)
    rw [programText_reread simple] at cuts
    exact parse_of_cuts program cuts
  refine ⟨reread, ?_⟩
  rw [reread]
  simp only [Except.ok.injEq, exists_eq_left', map_beq_self_iff]
  refine ⟨?_, ?_⟩
  · intro equal selection x mem number
    exact (Statement.reread_beq_iff (simple _ mem)).mp (equal _ mem) x number
  · intro finite s mem
    obtain ⟨selection⟩ := s
    apply (Statement.reread_beq_iff (simple _ mem)).mpr
    exact fun x number => finite selection x mem number

/-- Two statements with a comment between them. -/
def commentedSource : String :=
  "select größe, 0.50, \x27it\x27\x27s\x27 from t -- one\n; select 1.;"

def commentedProgram : List Statement := [
  .select ⟨[.column "größe", .literal (.number ⟨false, 0x3FE0000000000000, by decide⟩),
    .literal (.string "it\x27s")], some "t", none⟩,
  .select ⟨[.literal (.number ⟨false, 0x3FF0000000000000, by decide⟩)], none, none⟩]

theorem reread_commentedProgram : parse commentedSource = .ok commentedProgram ∧
    parse (Statement.programText commentedProgram) =
      .ok (commentedProgram.map Statement.reread) ∧
    ∃ again, parse (Statement.programText commentedProgram) = .ok again ∧
      (again == commentedProgram) = true := by
  have read : parse commentedSource = .ok commentedProgram := by decide +kernel
  have finite : ∀ s ∈ commentedProgram, s.Simple (·.isFinite) := by decide +kernel
  obtain ⟨reread, equal⟩ := parse_programText_of_parse read
  exact ⟨read, reread, equal.mpr fun _ _ mem number => (finite _ mem).expressions _ number⟩

theorem parse_select_numeral {numeral : String} {x : Binary64} (h : IsNumeral numeral.toList)
    (read : Binary64.ofText? numeral.toList = some x) :
    parse ("SELECT " ++ numeral) = .ok [.select ⟨[.literal (.number x)], none, none⟩] := by
  have select : Cuts "SELECT".toList [⟨.selectWord, "SELECT"⟩] := (solid_reserved (by decide)).cuts
  have cuts := select.spaced (solid_numeral h).cuts
  exact parse_of_cuts (.last (.plain (.one (.number read)))) (by simpa using cuts)

/-- A numeral that is past the range of doubles. -/
def overflowNumeral : String := String.ofList ('1' :: List.replicate 309 '0')

/-- Such a numeral is read as infinity, and that is written as a name: the second
reading is not equal to the first. -/
theorem not_reread_overflowNumeral :
    ∃ statements, parse ("SELECT " ++ overflowNumeral) = .ok statements ∧
      ¬ ∃ again, parse (Statement.programText statements) = .ok again ∧
        (again == statements) = true := by
  have digits (n : Nat) : IsNumeral ('1' :: List.replicate n '0') :=
    ⟨_, [], by simp, by simp, by simp, .inl rfl⟩
  have text : overflowNumeral.toList = '1' :: List.replicate 309 '0' := String.toList_ofList
  have numeral : IsNumeral overflowNumeral.toList := text ▸ digits 309
  have past : Binary64.ofText? overflowNumeral.toList = some .infinity := by
    rw [text]
    decide +kernel
  have renamed : parse (Statement.programText
      [.select ⟨[.literal (.number .infinity)], none, none⟩]) =
      .ok [.select ⟨[.column "inf"], none, none⟩] := by decide +kernel
  refine ⟨_, parse_select_numeral numeral past, ?_⟩
  intro second
  obtain ⟨again, reread, equal⟩ := second
  obtain rfl := Except.ok.inj (renamed.symm.trans reread)
  cases equal

end SelectLang
