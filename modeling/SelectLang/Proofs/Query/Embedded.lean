import SelectLang.Proofs.Query.Refusal
import SelectLang.Proofs.Token.Seam
import SelectLang.Proofs.Token.Verbatim

/-!
# Values in a text

A text with a place for a string is read in the same way whatever the string is:
it is one token there, and a reading never looks into it. So no value can add a
statement, end one or hide one, and none can make or mend an error.

* `Slot`: statements with a place for a string among their expressions.
* `Stage.behind older`: the stage with older expressions before its own.
* `Uniform r`: the readings `r value` of all values differ in the value alone.

Results:
* `read_behind`: a token does the same behind any expressions.
* `Uniform.push`: one more token leaves readings uniform.
* `Uniform.result`: uniform readings all succeed or all have the same error.
* `parse_embedded`: so the texts with a quoted value in one place are all read
  with that value in one place, or have the same error.
-/
namespace SelectLang

open SelectLang.Token SelectLang.Grammar

/-- Statements with a place for a string among the expressions of one of them. -/
structure Slot where
  before : List Statement
  left : List Expr
  right : List Expr
  table : Option String
  behind : List Statement

def Slot.fill (s : Slot) (value : String) : List Statement :=
  s.before ++ .select ⟨s.left ++ .literal (.string value) :: s.right, s.table, none⟩ :: s.behind

namespace Slot

/-- The slot of a statement that is built of expressions read so far, the last one
first, behind complete statements. -/
def ofBuilt (statements : List Statement) (done older : List Expr) (name : Option String) : Slot :=
  ⟨statements.reverse, older.reverse, done.reverse, name, []⟩

def followed (s : Slot) (more : List Statement) : Slot := { s with behind := s.behind ++ more }

theorem fill_ofBuilt (statements : List Statement) (done older : List Expr) (name : Option String)
    (value : String) : (ofBuilt statements done older name).fill value = statements.reverse ++
      [Stage.built (done ++ .literal (.string value) :: older) name] := by
  simp [fill, ofBuilt, Stage.built]

theorem fill_followed (s : Slot) (more : List Statement) (value : String) :
    (s.followed more).fill value = s.fill value ++ more := by
  simp [fill, followed]

end Slot

/-! ## Older expressions -/

namespace Stage

/-- The stage with older expressions before its own; between statements there is
no place for them. -/
def behind (older : List Expr) : Stage → Stage
  | statement => statement
  | expression done => expression (done ++ older)
  | separator done => separator (done ++ older)
  | table done => table (done ++ older)
  | terminator done name => terminator (done ++ older) name

/-- The moves are the same behind any older expressions, if there are some: these
stand in the statement when that is complete. -/
inductive UniformMove (move : List Expr → Move) : Prop
  | advance (next : Stage) : next ≠ .statement →
      (∀ older ≠ [], move older = .advance (next.behind older)) → UniformMove move
  | complete {done : List Expr} {name : Option String} :
      (∀ older ≠ [], move older = .complete (built (done ++ older) name)) → UniformMove move
  | conclude {done : List Expr} {name : Option String} :
      (∀ older ≠ [], move older = .conclude (some (built (done ++ older) name))) → UniformMove move
  | reject (cause : ReadError.Cause) : (∀ older ≠ [], move older = .reject cause) → UniformMove move

/-- Whether a token ends a statement does not depend on the statement. -/
theorem uniformMove_terminated (done : List Expr) (name : Option String) (t : Token) :
    UniformMove fun older => terminated (built (done ++ older) name) t := by
  obtain ⟨kind, literal⟩ := t
  cases kind with
  | semicolon => exact .complete fun _ _ => rfl
  | endOfInput => exact .conclude fun _ _ => rfl
  | _ => exact .reject _ fun _ _ => rfl

/-- Within a statement a token does the same behind any older expressions. -/
theorem read_behind {stage : Stage} (within : stage ≠ .statement) (t : Token) :
    UniformMove fun older => (stage.behind older).read t := by
  cases stage with
  | statement => exact absurd rfl within
  | expression done =>
    -- The list of expressions is not empty, whatever the stage has of it.
    cases denoted : t.expression with
    | ok value =>
      refine .advance (.separator (value :: done)) (by simp) fun older some => ?_
      simp [behind, Stage.read, some, denoted]
    | error cause =>
      refine .reject cause fun older some => ?_
      simp [behind, Stage.read, some, denoted]
  | separator done =>
    by_cases comma : t.kind = .comma
    · refine .advance (.expression done) (by simp) fun older _ => ?_
      simp [behind, Stage.read, comma]
    by_cases preposition : t.kind = .fromWord
    · refine .advance (.table done) (by simp) fun older _ => ?_
      simp [behind, Stage.read, preposition]
    · have read (older : List Expr) : ((separator done).behind older).read t =
          terminated (built (done ++ older) none) t := by
        simp [behind, Stage.read]
      simpa only [read] using uniformMove_terminated done none t
  | table done =>
    obtain ⟨kind, literal⟩ := t
    cases kind with
    | identifier => exact .advance (.terminator done literal) (by simp) fun _ _ => rfl
    | _ => exact .reject _ fun _ _ => rfl
  | terminator done name => exact uniformMove_terminated done (some name) t

/-- A string is an expression, or is refused whatever it is. -/
theorem read_string (stage : Stage) :
    (∃ done, stage = .expression done ∧ ∀ value : String,
      stage.read ⟨.stringLiteral, (Literal.string value).text⟩ =
        .advance (.separator (.literal (.string value) :: done))) ∨
    ∃ cause, ∀ literal, stage.read ⟨.stringLiteral, literal⟩ = .reject cause := by
  cases stage with
  | expression done =>
    refine .inl ⟨done, rfl, fun value => ?_⟩
    have denoted := unescaped_quote value.toList
    rw [String.ofList_toList] at denoted
    simp [Stage.read, endsList, Token.expression, Literal.text, denoted]
  | _ => exact .inr ⟨_, fun _ => rfl⟩

end Stage

/-! ## Readings that differ in a value -/

open Stage (built)

/-- The readings differ in the value alone: it stands in the statement that is
being read, or in one that is complete, or there is an error. -/
inductive Uniform (r : String → Reading) : Prop
  | pending (position : Nat) (statements : List Statement) (stage : Stage) (older : List Expr) :
      stage ≠ .statement → (∀ value, r value = ⟨position, statements,
        .within (stage.behind (.literal (.string value) :: older))⟩) → Uniform r
  | written (position : Nat) (slot : Slot) (status : Reading.Status) :
      (∀ value, r value = ⟨position, (slot.fill value).reverse, status⟩) → Uniform r
  | failed (position : Nat) (cause : ReadError.Cause) :
      (∀ value, ∃ t statements, r value = ⟨position, statements, .failed cause t⟩) → Uniform r

namespace Uniform

variable {r : String → Reading}

/-- In the statement with the value, a token does the same for all values. -/
theorem push_pending {position : Nat} {statements : List Statement} {stage : Stage}
    {older : List Expr} (within : stage ≠ .statement)
    (same : ∀ value, r value = ⟨position, statements,
      .within (stage.behind (.literal (.string value) :: older))⟩)
    (t : Token) : Uniform fun value => (r value).push t := by
  by_cases comment : t.kind = .comment
  · refine .pending (position + 1) statements stage older within fun value => ?_
    rw [same, Reading.push_comment rfl comment]
  have step (value : String) : (r value).push t =
      (r value).make t ((stage.behind (.literal (.string value) :: older)).read t) :=
    Reading.push_within (by rw [same]) comment
  cases Stage.read_behind within t with
  | advance next inner read =>
    refine .pending (position + 1) statements next older inner fun value => ?_
    rw [step, read _ (List.cons_ne_nil _ _), same]
    rfl
  | @complete done name read =>
    refine .written (position + 1) (.ofBuilt statements done older name) (.within .statement)
      fun value => ?_
    rw [step, read _ (List.cons_ne_nil _ _), same, Slot.fill_ofBuilt]
    simp [Reading.make]
  | @conclude done name read =>
    refine .written position (.ofBuilt statements done older name) .ended fun value => ?_
    rw [step, read _ (List.cons_ne_nil _ _), same, Slot.fill_ofBuilt]
    simp [Reading.make]
  | reject cause read =>
    refine .failed position cause fun value => ⟨t, statements, ?_⟩
    rw [step, read _ (List.cons_ne_nil _ _), same]
    rfl

/-- Behind the statement with the value, the stage does not depend on it. -/
theorem push_written {position : Nat} {slot : Slot} {stage : Stage}
    (same : ∀ value, r value = ⟨position, (slot.fill value).reverse, .within stage⟩)
    (t : Token) : Uniform fun value => (r value).push t := by
  by_cases comment : t.kind = .comment
  · refine .written (position + 1) slot (.within stage) fun value => ?_
    rw [same, Reading.push_comment rfl comment]
  have step (value : String) : (r value).push t = (r value).make t (stage.read t) :=
    Reading.push_within (by rw [same]) comment
  cases read : stage.read t with
  | advance next =>
    refine .written (position + 1) slot (.within next) fun value => ?_
    rw [step, read, same]
    rfl
  | complete statement =>
    refine .written (position + 1) (slot.followed [statement]) (.within .statement)
      fun value => ?_
    rw [step, read, same, Slot.fill_followed]
    simp [Reading.make]
  | conclude statement =>
    refine .written position (slot.followed statement.toList) .ended fun value => ?_
    rw [step, read, same, Slot.fill_followed]
    cases statement <;> simp [Reading.make]
  | reject cause =>
    refine .failed position cause fun value => ⟨t, (slot.fill value).reverse, ?_⟩
    rw [step, read, same]
    rfl

theorem push (h : Uniform r) (t : Token) : Uniform fun value => (r value).push t := by
  cases h with
  | pending position statements stage older within same => exact push_pending within same t
  | written position slot status same =>
    cases status with
    | within stage => exact push_written same t
    | _ => exact .written position slot _ fun value => by rw [same]; rfl
  | failed position cause same =>
    refine .failed position cause fun value => ?_
    obtain ⟨t', statements, e⟩ := same value
    exact ⟨t', statements, by rw [e]; rfl⟩

theorem after (h : Uniform r) (tokens : List Token) :
    Uniform fun value => (r value).after tokens := by
  induction tokens generalizing r with
  | nil => exact h
  | cons t rest ih => exact ih (h.push t)

/-- Uniform readings that have stopped all succeed, with the value in one place, or
all have the same error. -/
theorem result (h : Uniform r) (stopped : ∀ value, (r value).Stopped) :
    (∃ slot : Slot, ∀ value, (r value).result = .ok (slot.fill value)) ∨
      ∃ cause position, ∀ value, ∃ t, (r value).result = .error ⟨cause, t, position⟩ := by
  cases h with
  | pending position statements stage older within same =>
    have still := stopped ""
    rw [same] at still
    exact absurd rfl (still _)
  | written position slot status same =>
    cases status with
    | failed cause t =>
      refine .inr ⟨cause, position, fun value => ⟨t, ?_⟩⟩
      rw [same]
      rfl
    | _ =>
      refine .inl ⟨slot, fun value => ?_⟩
      simp [same, Reading.result]
  | failed position cause same =>
    refine .inr ⟨cause, position, fun value => ?_⟩
    obtain ⟨t, statements, e⟩ := same value
    exact ⟨t, by rw [e]; rfl⟩

end Uniform

def quotedToken (value : String) : Token := ⟨.stringLiteral, (Literal.string value).text⟩

/-- Behind tokens without an end, the token of a quoted value leaves readings that
differ in the value alone. -/
theorem uniform_quotedToken {front : List Token} (inner : ∀ t ∈ front, t.kind ≠ .endOfInput) :
    Uniform fun value => ((Reading.initial 0).after front).push (quotedToken value) := by
  generalize reached : (Reading.initial 0).after front = r
  obtain ⟨position, statements, status⟩ := r
  cases status with
  | failed cause t => exact .failed position cause fun value => ⟨t, statements, rfl⟩
  | ended =>
    obtain ⟨before, t, rest, rfl, ending, -⟩ :=
      Reading.exists_end (r := Reading.initial 0) rfl (congrArg Reading.status reached)
    exact absurd ending (inner t (by simp))
  | within stage =>
    rcases stage.read_string with ⟨done, rfl, read⟩ | ⟨cause, read⟩
    · refine .pending (position + 1) statements (.separator []) done (by simp) fun value => ?_
      simp [Reading.push, quotedToken, read, Reading.make, Stage.behind]
    · refine .failed position cause fun value => ⟨quotedToken value, statements, ?_⟩
      simp [Reading.push, quotedToken, read, Reading.make]

/-- **A quoted value stays a value.** Between a text that ends neither in an error,
nor in a comment, nor in a quote, and one that begins with no quote, a quoted
value is one token, and the other tokens are the same for all values. The texts
with the values are all read, with the value in one place of the statements, or
all have an error of the same cause at the same position. -/
theorem parse_embedded {front behind : String} (whole : (lex front).getLast? = some Token.atEnd)
    (comment : ∀ t, (lex front).dropLast.getLast? = some t → t.kind ≠ .comment)
    (mark : front.toList.getLast? ≠ some Quoted.mark)
    (follow : behind.toList.head? ≠ some Quoted.mark) :
    (∀ value, lex (front ++ (Literal.string value).text ++ behind) =
      (lex front).dropLast ++ quotedToken value :: lex behind) ∧
    ((∃ slot : Slot, ∀ value,
        parse (front ++ (Literal.string value).text ++ behind) = .ok (slot.fill value)) ∨
      ∃ cause position, ∀ value, ∃ t,
        parse (front ++ (Literal.string value).text ++ behind) = .error ⟨cause, t, position⟩) := by
  have cut (value : String) : lex (front ++ (Literal.string value).text ++ behind) =
      (lex front).dropLast ++ quotedToken value :: lex behind :=
    lex_quoted whole comment mark follow value.toList
  refine ⟨cut, ?_⟩
  have inner : ∀ t ∈ (lex front).dropLast, t.kind ≠ .endOfInput := by
    obtain ⟨body, last, tokens, lexemes⟩ := (lexes_lex front).exists_body
    rw [tokens, List.dropLast_concat]
    exact fun t ht => (lexemes t ht).1
  have uniform := ((uniform_quotedToken inner).after (lex behind)).push Token.atEnd
  have read (value : String) : parse (front ++ (Literal.string value).text ++ behind) =
      (((((Reading.initial 0).after (lex front).dropLast).push (quotedToken value)).after
        (lex behind)).push Token.atEnd).result := by
    rw [parse, cut, readTokens, Reading.ofTokens, Reading.after_append, Reading.after_cons]
  simp only [read]
  exact uniform.result fun value => Reading.stopped_push_end _ rfl

/-- A text with a comment that holds a quote, and with a quoted value before it. -/
def embeddingFront : String := "select -- it\x27s\n \x27a\x27 , 1.,"

/-- A text that goes on right behind a value, and holds a value itself. -/
def embeddingBehind : String := ", \x27;\x27from t -- end"

theorem parse_embedded_value :
    (lex embeddingFront).getLast? = some Token.atEnd ∧
      (∀ t, (lex embeddingFront).dropLast.getLast? = some t → t.kind ≠ .comment) ∧
      embeddingFront.toList.getLast? ≠ some Quoted.mark ∧
      embeddingBehind.toList.head? ≠ some Quoted.mark ∧
      (∀ value, lex (embeddingFront ++ (Literal.string value).text ++ embeddingBehind) =
        (lex embeddingFront).dropLast ++ quotedToken value :: lex embeddingBehind) ∧
      ∃ slot : Slot, ∀ value, parse (embeddingFront ++ (Literal.string value).text ++
        embeddingBehind) = .ok (slot.fill value) := by
  have whole : (lex embeddingFront).getLast? = some Token.atEnd := by decide +kernel
  have last : (lex embeddingFront).dropLast.getLast? = some ⟨.comma, ","⟩ := by decide +kernel
  have comment (t : Token) (ht : (lex embeddingFront).dropLast.getLast? = some t) :
      t.kind ≠ .comment := by
    rw [last] at ht
    cases ht
    decide
  have mark : embeddingFront.toList.getLast? ≠ some Quoted.mark := by decide
  have follow : embeddingBehind.toList.head? ≠ some Quoted.mark := by decide
  obtain ⟨cut, read | ⟨cause, position, failed⟩⟩ := parse_embedded whole comment mark follow
  · exact ⟨whole, comment, mark, follow, cut, read⟩
  · -- With no value there at all the text is a program.
    obtain ⟨t, failed⟩ := failed ""
    have ok : (parse (embeddingFront ++ (Literal.string "").text ++ embeddingBehind)).isOk := by
      decide +kernel
    rw [failed] at ok
    cases ok

end SelectLang
