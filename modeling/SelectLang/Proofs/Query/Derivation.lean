import SelectLang.Query.Grammar

/-!
# Readings and derivations

A reading goes through the tokens once and keeps a stage; the grammar divides
the same tokens into statements. What joins the two is what the grammar still
allows at a stage.

* `Followed statement tokens statements`: behind the whole statement the tokens
  make it the first of the statements.
* `Tabled done tokens statements`: the same behind its expressions, the last one
  first.
* `Continues stage tokens statements`: the same at a stage.

Results:
* `expression_eq_ok_iff`: a token stands for an expression in the grammar exactly
  if the reading takes it for that.
* `continues_cons_iff`, `read_of_end`: one token changes the stage as it changes
  what the grammar allows.
* `result_eq_ok_iff`: so a reading succeeds from a stage exactly if the grammar
  allows what is left.
* `readTokens_eq_ok_iff`: reading accepts the programs, and with the statements
  of the derivation.
-/
namespace SelectLang

namespace Grammar

theorem significant_cons_comment {t : Token} (h : t.kind = .comment) (tokens : List Token) :
    significant (t :: tokens) = significant tokens := by
  simp [significant, h]

theorem significant_cons_end {t : Token} (h : t.kind = .endOfInput) (tokens : List Token) :
    significant (t :: tokens) = [] := by
  simp [significant, h]

theorem significant_cons {t : Token} (comment : t.kind ≠ .comment) (ending : t.kind ≠ .endOfInput)
    (tokens : List Token) : significant (t :: tokens) = t :: significant tokens := by
  simp [significant, comment, ending]

theorem significant_append_end (tokens : List Token) :
    significant (tokens ++ [Token.atEnd]) = significant tokens := by
  induction tokens with
  | nil => rfl
  | cons t rest ih =>
    rw [List.cons_append]
    by_cases ending : t.kind = .endOfInput
    · rw [significant_cons_end ending, significant_cons_end ending]
    by_cases comment : t.kind = .comment
    · rw [significant_cons_comment comment, significant_cons_comment comment, ih]
    · rw [significant_cons comment ending, significant_cons comment ending, ih]

theorem significant_closed (tokens : List Token) :
    significant (closed tokens) = significant tokens := by
  unfold closed
  split
  · rfl
  · exact significant_append_end tokens

/-! ## Expressions -/

theorem read_eq_ok_iff (text : String) (x : Binary64) :
    Binary64.read text = .ok x ↔ Binary64.ofText? text.toList = some x := by
  unfold Binary64.read
  cases Binary64.ofText? text.toList <;> simp

theorem truthValue?_eq_some_iff (text : String) (value : Bool) :
    truthValue? text = some value ↔
      text.toList.map Char.toLower = (if value then "true" else "false").toList := by
  unfold truthValue?
  generalize text.toList.map Char.toLower = lower
  by_cases isTrue : lower = ['t', 'r', 'u', 'e']
  · subst isTrue
    cases value <;> decide
  · by_cases isFalse : lower = ['f', 'a', 'l', 's', 'e']
    · subst isFalse
      cases value <;> decide
    · cases value <;> simp [isTrue, isFalse]

theorem expression_eq_ok_iff (t : Token) (value : Expr) :
    t.expression = .ok value ↔ Denotes t value := by
  obtain ⟨kind, literal⟩ := t
  refine ⟨?_, ?_⟩
  · intro h
    cases kind with
    | identifier => cases h; exact .column
    | stringLiteral => cases h; exact .string
    | nullWord => cases h; exact .null
    | numericLiteral =>
      simp only [Token.expression] at h
      split at h
      · next x found => cases h; exact .number ((read_eq_ok_iff ..).mp found)
      · cases h
    | booleanLiteral =>
      simp only [Token.expression] at h
      split at h
      · next truth found =>
        have word := (truthValue?_eq_some_iff ..).mp found
        cases h
        cases truth
        · exact .booleanFalse word
        · exact .booleanTrue word
      · cases h
    | _ => cases h
  · intro h
    cases h with
    | column => rfl
    | string => rfl
    | null => rfl
    | number found => simp [Token.expression, (read_eq_ok_iff ..).mpr found]
    | booleanTrue word =>
      simp [Token.expression, (truthValue?_eq_some_iff literal true).mpr word]
    | booleanFalse word =>
      simp [Token.expression, (truthValue?_eq_some_iff literal false).mpr word]

/-! ## What the grammar allows at a stage -/

open Stage (built)

/-- Behind the statement the tokens make it the first of the statements. -/
inductive Followed (statement : Statement) : List Token → List Statement → Prop
  | last : Followed statement [] [statement]
  | more {semicolon : String} {rest : List Token} {statements : List Statement} :
      Program rest statements →
      Followed statement (⟨.semicolon, semicolon⟩ :: rest) (statement :: statements)

/-- Behind these expressions, the last one first, the tokens name a table or none
and make the statement the first of the statements. -/
inductive Tabled (done : List Expr) : List Token → List Statement → Prop
  | plain {tokens : List Token} {statements : List Statement} :
      Followed (built done none) tokens statements → Tabled done tokens statements
  | fromTable {preposition name : String} {tokens : List Token} {statements : List Statement} :
      Followed (built done (some name)) tokens statements →
      Tabled done (⟨.fromWord, preposition⟩ :: ⟨.identifier, name⟩ :: tokens) statements

/-- What may stand at a stage, and the statements that it leads to. -/
inductive Continues : Stage → List Token → List Statement → Prop
  | statement {tokens : List Token} {statements : List Statement} : Program tokens statements →
      Continues .statement tokens statements
  | expression {done values : List Expr} {tokens rest : List Token} {statements : List Statement} :
      Listed tokens values → Tabled (values.reverse ++ done) rest statements →
      Continues (.expression done) (tokens ++ rest) statements
  | comma {done : List Expr} {comma : String} {tokens : List Token} {statements : List Statement} :
      Continues (.expression done) tokens statements →
      Continues (.separator done) (⟨.comma, comma⟩ :: tokens) statements
  | separator {done : List Expr} {tokens : List Token} {statements : List Statement} :
      Tabled done tokens statements → Continues (.separator done) tokens statements
  | table {done : List Expr} {name : String} {tokens : List Token} {statements : List Statement} :
      Followed (built done (some name)) tokens statements →
      Continues (.table done) (⟨.identifier, name⟩ :: tokens) statements
  | terminator {done : List Expr} {name : String} {tokens : List Token}
      {statements : List Statement} : Followed (built done (some name)) tokens statements →
      Continues (.terminator done name) tokens statements

/-- What may stand behind a token that makes the move. -/
def Resumes : Move → List Token → List Statement → Prop
  | .advance next, tokens, statements => Continues next tokens statements
  | .complete statement, tokens, statements =>
    ∃ others, statements = statement :: others ∧ Program tokens others
  | .conclude _, _, _ => False
  | .reject _, _, _ => False

theorem stated_append_iff {tokens : List Token} {statements : List Statement} :
    (∃ first statement rest, tokens = first ++ rest ∧ Stated first statement ∧
      Followed statement rest statements) ↔
    ∃ word rest, tokens = ⟨.selectWord, word⟩ :: rest ∧
      Continues (.expression []) rest statements := by
  refine ⟨?_, ?_⟩
  · intro given
    obtain ⟨first, statement, rest, rfl, stated, followed⟩ := given
    cases stated with
    | plain listed =>
      exact ⟨_, _, rfl, .expression listed (.plain (by simpa [built] using followed))⟩
    | fromTable listed =>
      rw [List.cons_append, List.append_assoc]
      exact ⟨_, _, rfl, .expression listed (.fromTable (by simpa [built] using followed))⟩
  · intro given
    obtain ⟨word, rest, rfl, h⟩ := given
    cases h with
    | expression listed tabled =>
      cases tabled with
      | plain followed => exact ⟨_, _, _, rfl, .plain listed, by simpa [built] using followed⟩
      | @fromTable preposition name rest statements followed =>
        have stated : Stated (⟨.selectWord, word⟩ ::
            (_ ++ [⟨.fromWord, preposition⟩, ⟨.identifier, name⟩])) _ := .fromTable listed
        exact ⟨_, _, rest, by simp, stated, by simpa [built] using followed⟩

theorem program_iff {tokens : List Token} {statements : List Statement} :
    Program tokens statements ↔ tokens = [] ∧ statements = [] ∨
      ∃ first statement rest, tokens = first ++ rest ∧ Stated first statement ∧
        Followed statement rest statements := by
  refine ⟨?_, ?_⟩
  · intro h
    cases h with
    | empty => exact .inl ⟨rfl, rfl⟩
    | last stated => exact .inr ⟨_, _, [], by simp, stated, .last⟩
    | more stated rest => exact .inr ⟨_, _, _, rfl, stated, .more rest⟩
  · intro given
    rcases given with ⟨rfl, rfl⟩ | ⟨first, statement, rest, rfl, stated, followed⟩
    · exact .empty
    · cases followed with
      | last => rw [List.append_nil]; exact .last stated
      | more rest => exact .more stated rest

theorem program_nil_iff {statements : List Statement} :
    Program [] statements ↔ statements = [] := by
  refine ⟨?_, ?_⟩
  · intro h
    rcases program_iff.mp h with ⟨-, rfl⟩ | ⟨first, statement, rest, e, stated, -⟩
    · rfl
    · exact absurd (List.append_eq_nil_iff.mp e.symm).1 stated.ne_nil
  · intro given
    subst given
    exact .empty

theorem program_cons_iff {t : Token} {tokens : List Token} {statements : List Statement} :
    Program (t :: tokens) statements ↔
      t.kind = .selectWord ∧ Continues (.expression []) tokens statements := by
  rw [program_iff, stated_append_iff]
  refine ⟨?_, ?_⟩
  · intro given
    rcases given with ⟨e, -⟩ | ⟨word, rest, e, h⟩
    · cases e
    · cases e; exact ⟨rfl, h⟩
  · intro given
    obtain ⟨kind, h⟩ := given
    exact .inr ⟨t.literal, tokens, by rw [← kind], h⟩

theorem followed_nil_iff {statement : Statement} {statements : List Statement} :
    Followed statement [] statements ↔ statements = [statement] := by
  refine ⟨?_, ?_⟩
  · intro given
    cases given
    rfl
  · intro given
    subst given
    exact .last

theorem followed_cons_iff {statement : Statement} {t : Token} {tokens : List Token}
    {statements : List Statement} :
    Followed statement (t :: tokens) statements ↔
      t.kind = .semicolon ∧ Resumes (.complete statement) tokens statements := by
  refine ⟨?_, ?_⟩
  · intro h
    cases h with
    | more rest => exact ⟨rfl, _, rfl, rest⟩
  · intro given
    obtain ⟨kind, others, rfl, rest⟩ := given
    obtain ⟨_, literal⟩ := t
    cases kind
    exact .more rest

theorem continues_statement_iff {tokens : List Token} {statements : List Statement} :
    Continues .statement tokens statements ↔ Program tokens statements := by
  refine ⟨?_, ?_⟩
  · intro given
    cases given
    assumption
  · exact .statement

theorem continues_terminator_iff {done : List Expr} {name : String} {tokens : List Token}
    {statements : List Statement} :
    Continues (.terminator done name) tokens statements ↔
      Followed (built done (some name)) tokens statements := by
  refine ⟨?_, ?_⟩
  · intro given
    cases given
    assumption
  · exact .terminator

theorem continues_separator_cons_iff {done : List Expr} {t : Token} {tokens : List Token}
    {statements : List Statement} :
    Continues (.separator done) (t :: tokens) statements ↔
      t.kind = .comma ∧ Continues (.expression done) tokens statements ∨
      t.kind = .fromWord ∧ Continues (.table done) tokens statements ∨
      t.kind = .semicolon ∧ Resumes (.complete (built done none)) tokens statements := by
  refine ⟨?_, ?_⟩
  · intro h
    cases h with
    | comma rest => exact .inl ⟨rfl, rest⟩
    | separator tabled =>
      cases tabled with
      | plain followed => exact .inr (.inr (followed_cons_iff.mp followed))
      | fromTable followed => exact .inr (.inl ⟨rfl, .table followed⟩)
  · obtain ⟨kind, literal⟩ := t
    intro given
    rcases given with ⟨rfl, h⟩ | ⟨rfl, h⟩ | h
    · exact .comma h
    · cases h with
      | table followed => exact .separator (.fromTable followed)
    · exact .separator (.plain (followed_cons_iff.mpr h))

theorem continues_expression_cons_iff {done : List Expr} {t : Token} {tokens : List Token}
    {statements : List Statement} :
    Continues (.expression done) (t :: tokens) statements ↔
      ∃ value, Denotes t value ∧ Continues (.separator (value :: done)) tokens statements := by
  refine ⟨?_, ?_⟩
  · intro h
    generalize e : t :: tokens = text at h
    cases h with
    | expression listed tabled =>
      cases listed with
      | one denotes => cases e; exact ⟨_, denotes, .separator tabled⟩
      | more denotes listed =>
        cases e
        refine ⟨_, denotes, .comma (.expression listed ?_)⟩
        simpa using tabled
  · intro given
    obtain ⟨value, denotes, h⟩ := given
    cases h with
    | comma h =>
      cases h with
      | expression listed tabled =>
        exact .expression (.more denotes listed) (by simpa using tabled)
    | separator tabled => exact .expression (.one denotes) tabled

/-! ## One token -/

/-- Where the list of expressions is over, no token stands for one. -/
theorem not_denotes {t : Token} (h : Stage.endsList t.kind) (value : Expr) : ¬ Denotes t value := by
  rintro ⟨⟩ <;> simp [Stage.endsList] at h

/-- **One token.** A token that is neither a comment nor an end moves the stage
to one that allows just what the token leaves. -/
theorem continues_cons_iff {stage : Stage} {t : Token} (ending : t.kind ≠ .endOfInput)
    {tokens : List Token} {statements : List Statement} :
    Continues stage (t :: tokens) statements ↔ Resumes (stage.read t) tokens statements := by
  cases stage with
  | statement =>
    rw [continues_statement_iff, program_cons_iff]
    obtain ⟨kind, literal⟩ := t
    cases kind <;> simp_all [Stage.read, Resumes]
  | expression done =>
    rw [continues_expression_cons_iff]
    simp only [Stage.read]
    split
    · next refused => simp [Resumes, not_denotes refused.2]
    · cases h : t.expression with
      | ok value =>
        have denotes (other : Expr) : Denotes t other ↔ value = other := by
          rw [← expression_eq_ok_iff, h, Except.ok.injEq]
        simp [Resumes, denotes]
      | error cause =>
        have denotes (other : Expr) : ¬ Denotes t other := by
          simp [← expression_eq_ok_iff, h]
        simp [Resumes, denotes]
  | separator done =>
    rw [continues_separator_cons_iff]
    obtain ⟨kind, literal⟩ := t
    cases kind <;> simp_all [Stage.read, Stage.terminated, Resumes]
  | table done =>
    obtain ⟨kind, literal⟩ := t
    refine ⟨?_, ?_⟩
    · intro given
      cases given
      exact .terminator ‹_›
    · intro h
      cases kind <;> simp only [Stage.read, Resumes] at h
      cases h with
      | terminator followed => exact .table followed
  | terminator done name =>
    rw [continues_terminator_iff, followed_cons_iff]
    obtain ⟨kind, literal⟩ := t
    cases kind <;> simp_all [Stage.read, Stage.terminated, Resumes]

/-- An end token either concludes with what the grammar makes of no more tokens,
or is refused where the grammar needs more. -/
theorem read_of_end (stage : Stage) {t : Token} (h : t.kind = .endOfInput) :
    (∃ statement, stage.read t = .conclude statement ∧
      ∀ statements, Continues stage [] statements ↔ statements = statement.toList) ∨
    ∃ cause, stage.read t = .reject cause ∧ ∀ statements, ¬ Continues stage [] statements := by
  obtain ⟨kind, literal⟩ := t
  cases h
  cases stage with
  | statement =>
    refine .inl ⟨none, rfl, fun statements => ?_⟩
    rw [continues_statement_iff, program_nil_iff]
    rfl
  | expression done =>
    refine .inr ⟨if done = [] then .noExpressions else .unexpectedToken, ?_, fun statements h => ?_⟩
    · cases done <;> rfl
    · generalize e : ([] : List Token) = text at h
      cases h with
      | expression listed tabled => cases listed <;> cases e
  | separator done =>
    refine .inl ⟨built done none, rfl, fun statements => ?_⟩
    refine ⟨?_, ?_⟩
    · intro given
      cases given
      next tabled => cases tabled with
        | plain followed => exact followed_nil_iff.mp followed
    · intro given
      subst given
      exact .separator (.plain .last)
  | table done => exact .inr ⟨_, rfl, fun statements => by rintro ⟨⟩⟩
  | terminator done name =>
    refine .inl ⟨built done (some name), rfl, fun statements => ?_⟩
    rw [continues_terminator_iff, followed_nil_iff]
    rfl

theorem end_of_conclude {stage : Stage} {t : Token} {statement : Option Statement}
    (h : stage.read t = .conclude statement) : t.kind = .endOfInput := by
  obtain ⟨kind, literal⟩ := t
  cases stage with
  | expression done =>
    simp only [Stage.read] at h
    split at h
    · cases h
    · split at h <;> cases h
  | _ => cases kind <;> simp_all [Stage.read, Stage.terminated]

end Grammar

/-! ## A whole reading -/

namespace Reading

open Grammar

theorem push_end {r : Reading} {stage : Stage} (h : r.status = .within stage) {t : Token}
    (ending : t.kind = .endOfInput) :
    (r.push t).Stopped ∧ ∀ statements, (r.push t).result = .ok statements ↔
      ∃ others, statements = r.statements.reverse ++ others ∧ Continues stage [] others := by
  have step : r.push t = r.make t (stage.read t) := by simp [push, h, ending]
  rw [step]
  rcases read_of_end stage ending with ⟨statement, read, allows⟩ | ⟨cause, read, refuses⟩
  · rw [read]
    refine ⟨by simp [Stopped, make], fun statements => ?_⟩
    simp only [result, make, allows, exists_eq_right, Except.ok.injEq, List.reverse_append]
    cases statement <;> simp [eq_comm]
  · rw [read]
    exact ⟨by simp [Stopped, make], fun statements => by simp [result, make, refuses]⟩

/-- **A reading and its grammar.** From a stage on, the tokens are read with
success exactly if the grammar allows the significant ones there, and the
statements that it finds come behind those read before. -/
theorem result_eq_ok_iff {r : Reading} {stage : Stage} (h : r.status = .within stage)
    (tokens : List Token) (statements : List Statement) :
    ((r.after tokens).push Token.atEnd).result = .ok statements ↔
      ∃ others, statements = r.statements.reverse ++ others ∧
        Continues stage (significant tokens) others := by
  induction tokens generalizing r stage with
  | nil => exact (push_end h rfl).2 statements
  | cons t rest ih =>
    rw [after_cons]
    by_cases ending : t.kind = .endOfInput
    · obtain ⟨stopped, answer⟩ := push_end h ending
      rw [after_of_stopped stopped, push_of_stopped stopped, significant_cons_end ending]
      exact answer statements
    by_cases comment : t.kind = .comment
    · rw [push_comment h comment, significant_cons_comment comment]
      exact ih h
    · have step : r.push t = r.make t (stage.read t) := by simp [push, h, comment]
      simp only [step, significant_cons comment ending, continues_cons_iff ending]
      cases read : stage.read t with
      | advance next => exact ih rfl
      | complete statement =>
        refine (ih (r := r.make t (.complete statement)) rfl).trans ?_
        simp only [make, Resumes, List.reverse_cons, List.append_assoc, continues_statement_iff]
        refine ⟨?_, ?_⟩
        · intro given
          obtain ⟨others, e, program⟩ := given
          exact ⟨_, e, others, rfl, program⟩
        · intro given
          obtain ⟨_, e, others, rfl, program⟩ := given
          exact ⟨others, e, program⟩
      | conclude statement => exact absurd (end_of_conclude read) ending
      | reject cause =>
        have stopped : (r.make t (.reject cause)).Stopped := by simp [Stopped, make]
        rw [after_of_stopped stopped, push_of_stopped stopped]
        simp [result, make, Resumes]

end Reading

theorem readTokens_eq_ok (tokens : List Token) (statements : List Statement) :
    readTokens tokens = .ok statements ↔
      Grammar.Program (Grammar.significant tokens) statements := by
  rw [readTokens, Reading.ofTokens, Reading.result_eq_ok_iff (r := Reading.initial 0) rfl]
  simp [Reading.initial, Grammar.continues_statement_iff]

/-- **Reading decides the grammar of statements.** A list of tokens, whatever
they are and wherever its end tokens and comments stand, is read without error
exactly if it is a program, and then as the statements of the derivation. -/
theorem readTokens_eq_ok_iff (tokens : List Token) (statements : List Statement) :
    readTokens tokens = .ok statements ↔
      Grammar.Program (Grammar.significant (Grammar.closed tokens)) statements := by
  rw [Grammar.significant_closed, readTokens_eq_ok]

end SelectLang
