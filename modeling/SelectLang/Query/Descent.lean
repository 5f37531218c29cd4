import SelectLang.Query.Grammar
import SelectLang.Query.Session

/-!
# Reading by descent

A session as procedures that call one another, step by step. They share a cursor
into the tokens, which end in an end token. Each step looks at the token under the
cursor, and does what the procedure that is under way does with it: it goes on to the
next thing to be done, takes the token and moves the cursor behind it and the comments
that follow, or ends the call. If there is no token under the cursor, the descent is
lost.

* `Task`: the places in the procedures.
* `Task.act`: what is done at one with the token under the cursor.
* `Descent.step`: one step.
* `Descent.after`: a number of steps.

Results:
* `after_add`: steps behind other steps.
* `step_doing`, `step_comment`, `step_skipped`: one step by what is under way.
-/
namespace SelectLang

open SelectLang.Grammar

namespace Descent

/-- What is to be done next. The statements and expressions read so far are kept with
the last one first. -/
inductive Task
  /-- Nothing: no call is under way. -/
  | rest
  /-- The loop over statements: whether there is one more. -/
  | program (read : List Statement)
  /-- One statement, which begins with `SELECT`. -/
  | statement (read : List Statement)
  /-- The list of expressions: whether it has any. -/
  | list (read : List Statement)
  /-- One expression. -/
  | expression (read : List Statement) (done : List Expr)
  /-- The loop over expressions: whether there is one more. -/
  | comma (read : List Statement) (done : List Expr)
  /-- Whether a table follows. -/
  | preposition (read : List Statement) (done : List Expr)
  /-- The name of the table. -/
  | table (read : List Statement) (done : List Expr)
  /-- The end of the statement. -/
  | terminator (read : List Statement) (done : List Expr) (name : Option String)
  /-- Whether a semicolon is to be taken behind the statement. -/
  | separator (read : List Statement)
  deriving DecidableEq

/-- What a procedure does with the token under the cursor. -/
inductive Act
  /-- Leaves it to what is to be done next. -/
  | leave (next : Task)
  /-- Takes it. -/
  | take (next : Task)
  /-- Ends the call with the statements. -/
  | finish (statements : List Statement)
  /-- Ends the call with an error at the token. -/
  | refuse (cause : ReadError.Cause)
  deriving DecidableEq

namespace Task

def act (task : Task) (t : Token) : Act :=
  match task with
  | rest => .leave (program [])
  | program read => if t.kind = .endOfInput then .finish read.reverse else .leave (statement read)
  | statement read =>
    match t.kind with
    | .selectWord => .take (list read)
    | .error => .refuse .lexical
    | _ => .refuse .unsupportedStatement
  | list read =>
    if Stage.endsList t.kind then .refuse .noExpressions else .leave (expression read [])
  | expression read done =>
    match t.expression with
    | .ok value => .take (comma read (value :: done))
    | .error cause => .refuse cause
  | comma read done =>
    if t.kind = .comma then .take (expression read done) else .leave (preposition read done)
  | preposition read done =>
    if t.kind = .fromWord then .take (table read done) else .leave (terminator read done none)
  | table read done =>
    match t.kind with
    | .identifier => .take (terminator read done (some t.literal))
    | .error => .refuse .lexical
    | _ => .refuse .expectedTableName
  | terminator read done name =>
    match t.kind with
    | .semicolon | .endOfInput => .leave (separator (Stage.built done name :: read))
    | .error => .refuse .lexical
    | _ => .refuse .trailingTokens
  | separator read => if t.kind = .semicolon then .take (program read) else .leave (program read)

end Task

inductive Control
  /-- The task. -/
  | doing (task : Task)
  /-- The loop over comments, before the task. -/
  | skipping (next : Task)
  /-- Nothing more: there was no token under the cursor. -/
  | lost
  deriving DecidableEq

end Descent

/-- A descent: the tokens with the end token, the index of the token under the cursor,
what is under way, and the answers of the calls so far, the last one first. -/
structure Descent where
  tokens : List Token
  cursor : Nat
  control : Descent.Control
  answers : List (Except ReadError (List Statement))

namespace Descent

/-- The descent before the first call, with the comments in front yet to be passed
over. -/
def ofTokens (tokens : List Token) : Descent := ⟨closed tokens, 0, .skipping .rest, []⟩

/-- Does with the token under the cursor what is to be done. The end token is never
moved behind. -/
def perform (d : Descent) (t : Token) : Act → Descent
  | .leave next => { d with control := .doing next }
  | .take next =>
    if t.kind = .endOfInput then { d with control := .doing next }
    else { d with cursor := d.cursor + 1, control := .skipping next }
  | .finish statements => { d with control := .doing .rest, answers := .ok statements :: d.answers }
  | .refuse cause =>
    { d with control := .doing .rest, answers := .error ⟨cause, t, d.cursor⟩ :: d.answers }

/-- One step. Where no call is under way, the next one begins. -/
def step (d : Descent) : Descent :=
  match d.control, d.tokens[d.cursor]? with
  | .lost, _ => d
  | _, none => { d with control := .lost }
  | .doing task, some t => d.perform t (task.act t)
  | .skipping next, some t =>
    if t.kind = .comment then { d with cursor := d.cursor + 1 }
    else { d with control := .doing next }

def after (d : Descent) : Nat → Descent
  | 0 => d
  | n + 1 => (d.after n).step

theorem after_one (d : Descent) : d.after 1 = d.step := rfl

theorem after_add (d : Descent) (m n : Nat) : d.after (m + n) = (d.after m).after n := by
  induction n with
  | zero => rfl
  | succ n ih => rw [← Nat.add_assoc, after, after, ih]

theorem step_doing {d : Descent} {task : Task} {t : Token} (h : d.control = .doing task)
    (found : d.tokens[d.cursor]? = some t) : d.step = d.perform t (task.act t) := by
  simp [step, h, found]

theorem step_comment {d : Descent} {next : Task} {t : Token} (h : d.control = .skipping next)
    (found : d.tokens[d.cursor]? = some t) (comment : t.kind = .comment) :
    d.step = { d with cursor := d.cursor + 1 } := by
  simp [step, h, found, comment]

theorem step_skipped {d : Descent} {next : Task} {t : Token} (h : d.control = .skipping next)
    (found : d.tokens[d.cursor]? = some t) (comment : t.kind ≠ .comment) :
    d.step = { d with control := .doing next } := by
  simp [step, h, found, comment]

end Descent

end SelectLang
