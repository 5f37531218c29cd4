import SelectLang.Query.ReadError
import SelectLang.Query.Statement
import SelectLang.Token.Scan

/-!
# Reading statements

Tokens are read one at a time. The stage says what of a statement has been read
and so what may come next; a token either moves the stage on, completes a
statement, ends the reading, or is an error. Comments are passed over, but they
count for positions. A list without an end token is read as if one followed it.

The state after a list of tokens is the fold of `Reading.push` over it, so a
reading of `a ++ b` goes on from the state after `a`.

Results:
* `after_append`: that law.
* `after_of_stopped`: after the end or an error no token counts.
* `push_comment`: a comment only moves the position.
-/
namespace SelectLang

/-- The truth value that a word stands for, in any ASCII letter case. -/
def truthValue? (text : String) : Option Bool :=
  let lower := text.toList.map Char.toLower
  if lower = ['t', 'r', 'u', 'e'] then some true
  else if lower = ['f', 'a', 'l', 's', 'e'] then some false
  else none

/-- The expression that a single token stands for, or why it stands for none. -/
def Token.expression (t : Token) : Except ReadError.Cause Expr :=
  match t.kind with
  | .identifier => .ok (.column t.literal)
  | .numericLiteral =>
    match Binary64.read t.literal with
    | .ok value => .ok (.literal (.number value))
    | .error fault => .error (.invalidNumber fault)
  | .stringLiteral => .ok (.literal (.string t.unescaped))
  | .booleanLiteral =>
    match truthValue? t.literal with
    | some value => .ok (.literal (.boolean value))
    | none => .error .invalidBoolean
  | .nullWord => .ok (.literal .null)
  | .error => .error .lexical
  | _ => .error .unexpectedToken

/-! ## Stages of a statement -/

/-- What may come next. The expressions read so far are kept with the last one
first. -/
inductive Stage
  /-- A statement, or the end. -/
  | statement
  /-- An expression: the first one, or the one after a comma. -/
  | expression (done : List Expr)
  /-- What may follow an expression: a comma, `FROM`, or the end of the
  statement. -/
  | separator (done : List Expr)
  /-- The name of a table. -/
  | table (done : List Expr)
  /-- The end of the statement. -/
  | terminator (done : List Expr) (name : String)
  deriving DecidableEq

/-- What a token does. -/
inductive Move
  /-- It is part of the statement. -/
  | advance (next : Stage)
  /-- It separates the statement from the next one. -/
  | complete (statement : Statement)
  /-- It ends the reading, and with it the statement if one was begun. -/
  | conclude (statement : Option Statement)
  /-- It cannot stand here. -/
  | reject (cause : ReadError.Cause)
  deriving DecidableEq

namespace Stage

def built (done : List Expr) (table : Option String) : Statement :=
  .select ⟨done.reverse, table, none⟩

/-- What a token does where the statement may end. -/
def terminated (statement : Statement) (t : Token) : Move :=
  match t.kind with
  | .semicolon => .complete statement
  | .endOfInput => .conclude (some statement)
  | .error => .reject .lexical
  | _ => .reject .trailingTokens

/-- Whether a token of this kind shows that the list of expressions is over. -/
def endsList (kind : Token.Kind) : Bool :=
  kind = .fromWord || kind = .semicolon || kind = .endOfInput

/-- What a token other than a comment does at this stage. -/
def read (stage : Stage) (t : Token) : Move :=
  match stage with
  | .statement =>
    match t.kind with
    | .selectWord => .advance (.expression [])
    | .endOfInput => .conclude none
    | .error => .reject .lexical
    | _ => .reject .unsupportedStatement
  | .expression done =>
    if done = [] ∧ endsList t.kind then .reject .noExpressions
    else
      match t.expression with
      | .ok value => .advance (.separator (value :: done))
      | .error cause => .reject cause
  | .separator done =>
    match t.kind with
    | .comma => .advance (.expression done)
    | .fromWord => .advance (.table done)
    | _ => terminated (built done none) t
  | .table done =>
    match t.kind with
    | .identifier => .advance (.terminator done t.literal)
    | .error => .reject .lexical
    | _ => .reject .expectedTableName
  | .terminator done name => terminated (built done (some name)) t

end Stage

/-! ## The reading -/

/-- Whether a reading goes on, and where in a statement it is. -/
inductive Reading.Status
  | within (stage : Stage)
  | ended
  | failed (cause : ReadError.Cause) (token : Token)
  deriving DecidableEq

/-- A reading: the index of the next token, or of the one that stopped it, the
complete statements with the last one first, and the status. -/
structure Reading where
  position : Nat
  statements : List Statement
  status : Reading.Status
  deriving DecidableEq

namespace Reading

/-- The reading that has read nothing, when the first token has the given index. -/
def initial (position : Nat) : Reading := ⟨position, [], .within .statement⟩

def make (r : Reading) (t : Token) : Move → Reading
  | .advance next => ⟨r.position + 1, r.statements, .within next⟩
  | .complete statement => ⟨r.position + 1, statement :: r.statements, .within .statement⟩
  | .conclude statement => ⟨r.position, statement.toList ++ r.statements, .ended⟩
  | .reject cause => ⟨r.position, r.statements, .failed cause t⟩

def push (r : Reading) (t : Token) : Reading :=
  match r.status with
  | .within stage =>
    if t.kind = .comment then { r with position := r.position + 1 } else r.make t (stage.read t)
  | _ => r

def after (r : Reading) (tokens : List Token) : Reading := tokens.foldl push r

def ofTokens (position : Nat) (tokens : List Token) : Reading :=
  ((initial position).after tokens).push Token.atEnd

def result (r : Reading) : Except ReadError (List Statement) :=
  match r.status with
  | .failed cause token => .error ⟨cause, token, r.position⟩
  | _ => .ok r.statements.reverse

@[simp]
theorem after_nil (r : Reading) : r.after [] = r := rfl

@[simp]
theorem after_cons (r : Reading) (t : Token) (tokens : List Token) :
    r.after (t :: tokens) = (r.push t).after tokens := rfl

theorem after_append (r : Reading) (a b : List Token) : r.after (a ++ b) = (r.after a).after b :=
  List.foldl_append

theorem statements_of_ok {r : Reading} {statements : List Statement}
    (h : r.result = .ok statements) : r.statements.reverse = statements := by
  unfold result at h
  split at h
  · cases h
  · exact Except.ok.inj h

/-- Whether no further token counts. -/
def Stopped (r : Reading) : Prop := ∀ stage, r.status ≠ .within stage

theorem push_of_stopped {r : Reading} (h : r.Stopped) (t : Token) : r.push t = r := by
  unfold push
  split
  · next stage within => exact absurd within (h stage)
  · rfl

theorem after_of_stopped {r : Reading} (h : r.Stopped) (tokens : List Token) :
    r.after tokens = r := by
  induction tokens with
  | nil => rfl
  | cons t rest ih => rw [after_cons, push_of_stopped h, ih]

theorem push_comment {r : Reading} {stage : Stage} (h : r.status = .within stage) {t : Token}
    (comment : t.kind = .comment) : r.push t = { r with position := r.position + 1 } := by
  simp [push, h, comment]

end Reading

/-- The statements of a list of tokens, or the first error in it. -/
def readTokens (tokens : List Token) : Except ReadError (List Statement) :=
  (Reading.ofTokens 0 tokens).result

def parse (source : String) : Except ReadError (List Statement) := readTokens (lex source)

end SelectLang
