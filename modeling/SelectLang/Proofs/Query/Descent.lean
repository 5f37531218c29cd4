import SelectLang.Proofs.Query.Restart
import SelectLang.Trace.Steps

/-!
# The descent is safe

The procedures look at the token under the cursor without asking whether there is one.
There always is: the tokens end in an end token, and no procedure moves the cursor
behind it. Every step that neither moves the cursor nor ends the call goes to a task
that is nearer to a decision, so every call ends; and what it answers is what the
session reads, and what it has written by then is the account of that.

* `Descent.Sound`: there is a token under the cursor, and where something is to be done
  with it, it is no comment.
* `Task.height`, `Descent.measure`: bounds of the steps until the cursor moves, and
  until the call ends.
* `Leads d records d'`: some steps lead from one descent to the other, and write the
  records.
* `Settles t cursor task records act`: with the token under the cursor, the task comes to
  the act and what is written on the way are the records.
* `ofReading`: where a descent stands that has come as far as a reading.

Results:
* `act_cases`, `step_cases`: what a procedure, and one step, can do.
* `Sound.step`, `Sound.after`: no step loses the descent.
* `Sound.exists_answer`: every call ends.
* `settles_entry`, `leads_push`: the procedures do with a token what a reading does, and
  write the account of it.
* `leads_call`: so they do in a call.
* `exists_after_calls`: and a descent answers what a session does.
* `descent_safe`: all this for every list of tokens and every number of calls.
-/
namespace SelectLang

open SelectLang.Grammar

namespace Descent

/-! ## What a step can do -/

/-- A bound of the steps until the token is taken or the call ends. -/
def Task.height : Task → Nat
  | rest => 3
  | program _ => 2
  | statement _ => 1
  | list _ => 2
  | expression _ _ => 1
  | comma _ _ => 6
  | preposition _ _ => 5
  | table _ _ => 1
  | terminator _ _ _ => 4
  | separator _ => 3

/-- What a procedure can do: leave the token to a lower task, take it if it is not the
end, or end the call. -/
theorem act_cases (task : Task) (t : Token) :
    (∃ next, task.act t = .leave next ∧ next.height < task.height) ∨
      (∃ next, task.act t = .take next ∧ t.kind ≠ .endOfInput ∧ next.height < task.height + 6) ∨
      (∃ statements, task.act t = .finish statements) ∨ ∃ cause, task.act t = .refuse cause := by
  obtain ⟨kind, literal⟩ := t
  cases task with
  | expression read done =>
    cases value : Token.expression ⟨kind, literal⟩ with
    | error cause => simp [Task.act, value]
    | ok e =>
      have ending : kind ≠ .endOfInput := by
        rintro rfl
        cases value
      simp [Task.act, value, Task.height, ending]
  | list read =>
    by_cases ends : Stage.endsList kind <;> simp [Task.act, ends, Task.height]
  | _ => cases kind <;> simp [Task.act, Task.height]

/-- There is a token under the cursor, the last token is an end token, and what
something is to be done with is no comment. -/
structure Sound (d : Descent) : Prop where
  closing : d.tokens.getLast?.map (·.kind) = some .endOfInput
  inside : d.cursor < d.tokens.length
  not_lost : d.control ≠ .lost
  significant : ∀ task t, d.control = .doing task → d.tokens[d.cursor]? = some t → t.kind ≠ .comment

/-- A bound of the steps until the call ends. -/
def measure (d : Descent) : Nat :=
  7 * (d.tokens.length - d.cursor) +
    match d.control with
    | .doing task => task.height
    | .skipping next => next.height + 1
    | .lost => 0

/-- The end token is the last one that the cursor can come to. -/
theorem succ_lt_length {tokens : List Token} {n : Nat} {t : Token}
    (closing : tokens.getLast?.map (·.kind) = some .endOfInput) (found : tokens[n]? = some t)
    (ending : t.kind ≠ .endOfInput) : n + 1 < tokens.length := by
  obtain ⟨inside, -⟩ := List.getElem?_eq_some_iff.mp found
  refine Nat.lt_of_le_of_ne inside fun last => ending ?_
  rw [List.getLast?_eq_getElem?, ← last, Nat.add_sub_cancel, found] at closing
  exact Option.some.inj closing

section Step

variable {d : Descent}

/-- What one step can do: go to what is to be done with the token, move the cursor
behind a token that is no end, or end the call. -/
theorem step_cases (h : d.Sound) :
    (∃ task, d.step = { d with control := .doing task } ∧ d.step.measure < d.measure ∧
      ∀ t, d.tokens[d.cursor]? = some t → t.kind ≠ .comment) ∨
    (∃ next, d.step = { d with cursor := d.cursor + 1, control := .skipping next } ∧
      d.step.measure < d.measure ∧ ∀ t, d.tokens[d.cursor]? = some t → t.kind ≠ .endOfInput) ∨
    ∃ answer, d.step = { d with control := .doing .rest, answers := answer :: d.answers } ∧
      ∀ t, d.tokens[d.cursor]? = some t → t.kind ≠ .comment := by
  obtain ⟨t, found⟩ : ∃ t, d.tokens[d.cursor]? = some t := ⟨_, List.getElem?_eq_getElem h.inside⟩
  have inside := h.inside
  simp only [found, Option.some.injEq, forall_eq']
  cases control : d.control with
  | lost => exact absurd control h.not_lost
  | skipping next =>
    by_cases comment : t.kind = .comment
    · have step : d.step = { d with cursor := d.cursor + 1, control := .skipping next } := by
        rw [step_comment control found comment, ← control]
      refine .inr (.inl ⟨next, step, ?_, by simp [comment]⟩)
      simp only [step, measure, control]
      omega
    · have step := step_skipped control found comment
      refine .inl ⟨next, step, ?_, comment⟩
      simp only [step, measure, control]
      omega
  | doing task =>
    have step := step_doing control found
    have comment := h.significant task t control found
    rcases act_cases task t with ⟨next, act, lower⟩ | ⟨next, act, ending, bound⟩ |
      ⟨statements, act⟩ | ⟨cause, act⟩
    · rw [act] at step
      refine .inl ⟨next, step, ?_, comment⟩
      simp only [step, perform, measure, control]
      omega
    · rw [act, perform, if_neg ending] at step
      refine .inr (.inl ⟨next, step, ?_, ending⟩)
      simp only [step, measure, control]
      omega
    · rw [act] at step
      exact .inr (.inr ⟨_, step, comment⟩)
    · rw [act] at step
      exact .inr (.inr ⟨_, step, comment⟩)

/-! ## Soundness -/

theorem sound_ofTokens (tokens : List Token) : (ofTokens tokens).Sound where
  closing := getLast?_closed tokens
  inside := by
    unfold ofTokens closed
    split
    · next last =>
      obtain ⟨t, found, -⟩ := Option.map_eq_some_iff.mp last
      exact List.length_pos_of_mem (List.mem_of_getLast? found)
    · simp
  not_lost := by simp [ofTokens]
  significant := by simp [ofTokens]

theorem Sound.step (h : d.Sound) : d.step.Sound := by
  rcases step_cases h with ⟨task, step, -, comment⟩ | ⟨next, step, -, ending⟩ |
    ⟨answer, step, comment⟩
  · rw [step]
    exact ⟨h.closing, h.inside, by simp, fun _ t _ found => comment t found⟩
  · rw [step]
    obtain found := List.getElem?_eq_getElem h.inside
    exact ⟨h.closing, succ_lt_length h.closing found (ending _ found), by simp, by simp⟩
  · rw [step]
    exact ⟨h.closing, h.inside, by simp, fun _ t _ found => comment t found⟩

theorem Sound.cursor_le (h : d.Sound) : d.cursor ≤ d.step.cursor := by
  rcases step_cases h with ⟨_, step, -⟩ | ⟨_, step, -⟩ | ⟨_, step, -⟩ <;> simp [step]

theorem Sound.tokens_step (h : d.Sound) : d.step.tokens = d.tokens := by
  rcases step_cases h with ⟨_, step, -⟩ | ⟨_, step, -⟩ | ⟨_, step, -⟩ <;> simp [step]

theorem Sound.after (h : d.Sound) (n : Nat) :
    (d.after n).Sound ∧ (d.after n).tokens = d.tokens := by
  induction n with
  | zero => exact ⟨h, rfl⟩
  | succ n ih => exact ⟨ih.1.step, ih.1.tokens_step.trans ih.2⟩

theorem Sound.measure_pos (h : d.Sound) : 0 < d.measure := by
  have := h.inside
  unfold measure
  omega

theorem Sound.exists_answer (h : d.Sound) : ∃ n ≤ d.measure,
    (d.after n).control = .doing .rest ∧ (d.after n).answers.length = d.answers.length + 1 := by
  induction bound : d.measure using Nat.strongRecOn generalizing d with
  | ind k ih =>
  subst bound
  have positive := h.measure_pos
  -- A step that does not end the call leaves fewer steps to its end.
  have further (less : d.step.measure < d.measure) (same : d.step.answers = d.answers) :
      ∃ n ≤ d.measure, (d.after n).control = .doing .rest ∧
        (d.after n).answers.length = d.answers.length + 1 := by
    obtain ⟨n, le, rest, answered⟩ := ih _ less h.step rfl
    refine ⟨1 + n, by omega, ?_⟩
    rw [after_add]
    exact ⟨rest, same ▸ answered⟩
  rcases step_cases h with ⟨task, step, less, -⟩ | ⟨next, step, less, -⟩ | ⟨answer, step, -⟩
  · exact further less (by rw [step])
  · exact further less (by rw [step])
  · refine ⟨1, positive, ?_⟩
    rw [show d.after 1 = d.step from rfl, step]
    exact ⟨rfl, rfl⟩

theorem measure_le (d : Descent) : d.measure ≤ 7 * (d.tokens.length - d.cursor) + 7 := by
  have height_le (task : Task) : task.height ≤ 6 := by cases task <;> simp [Task.height]
  unfold measure
  cases d.control with
  | doing task => exact Nat.add_le_add_left (Nat.le_succ_of_le (height_le task)) _
  | skipping next => exact Nat.add_le_add_left (Nat.succ_le_succ (height_le next)) _
  | lost => exact Nat.add_le_add_left (Nat.zero_le 7) _

end Step

/-! ## What steps lead to -/

/-- Some steps lead from one descent to the other, and write the records. -/
def Leads (d : Descent) (records : List Trace.Record) (d' : Descent) : Prop :=
  ∃ n, d.after (n + 1) = d' ∧ Trace.written notes d.after (n + 1) = records

theorem leads_step (d : Descent) : d.Leads d.notes d.step := ⟨0, rfl, Trace.written_one ..⟩

theorem Leads.trans {d d' d'' : Descent} {first others : List Trace.Record} (h : d.Leads first d')
    (h' : d'.Leads others d'') : d.Leads (first ++ others) d'' := by
  obtain ⟨m, rfl, rfl⟩ := h
  obtain ⟨n, rfl, rfl⟩ := h'
  refine ⟨m + 1 + n, by rw [Nat.add_assoc, after_add], ?_⟩
  rw [Nat.add_assoc, Trace.written_add]
  simp only [after_add]

theorem Leads.sound {d d' : Descent} {records : List Trace.Record} (h : d.Leads records d')
    (sound : d.Sound) : d'.Sound := by
  obtain ⟨n, rfl, -⟩ := h
  exact (sound.after (n + 1)).1

/-- Where two descents do the same first, what the one leads to the other leads to. -/
theorem Leads.of_step_eq {d d₀ d' : Descent} {records : List Trace.Record} (h : d₀.Leads records d')
    (step : d.step = d₀.step) (notes : d.notes = d₀.notes) : d.Leads records d' := by
  obtain ⟨n, rfl, rfl⟩ := h
  have same (k : Nat) : d.after (1 + k) = d₀.after (1 + k) := by
    rw [after_add, after_add, after_one, after_one, step]
  refine ⟨n, by rw [Nat.add_comm n, same], ?_⟩
  rw [Nat.add_comm n, Trace.written_add, Trace.written_add, Trace.written_one, Trace.written_one]
  simp only [same]
  exact congrArg (· ++ _) notes

/-! ## One token -/

/-- With the token under the cursor, the task comes to the act and writes the records. -/
inductive Settles (t : Token) (cursor : Nat) : Task → List Trace.Record → Act → Prop
  | here {task : Task} {act : Act} : task.act t = act → (∀ next, act ≠ .leave next) →
      Settles t cursor task (task.notes t cursor) act
  | later {task next : Task} {records : List Trace.Record} {act : Act} :
      task.act t = .leave next → Settles t cursor next records act →
      Settles t cursor task (task.completed ++ records) act

section Settles

variable {t : Token} {cursor : Nat} {task : Task} {records : List Trace.Record} {act : Act}

theorem Settles.ne_end (h : Settles t cursor task records act) {next : Task}
    (take : act = .take next) : t.kind ≠ .endOfInput := by
  induction h with
  | @here task act acts _ =>
    subst take
    rcases act_cases task t with ⟨_, e, -⟩ | ⟨_, -, ending, -⟩ | ⟨_, e⟩ | ⟨_, e⟩
    · simp [acts] at e
    · exact ending
    · simp [acts] at e
    · simp [acts] at e
  | later _ _ ih => exact ih take

theorem Settles.take {next : Task} (h : task.act t = .take next) :
    Settles t cursor task [] (.take next) := by
  have settles : Settles t cursor task _ (.take next) := .here h (by simp)
  rwa [Task.notes, h] at settles

theorem Settles.refuse {cause : ReadError.Cause} (h : task.act t = .refuse cause) :
    Settles t cursor task [Trace.ofError ⟨cause, t, cursor⟩] (.refuse cause) := by
  have settles : Settles t cursor task _ (.refuse cause) := .here h (by simp)
  rwa [Task.notes, h] at settles

theorem perform_control (d : Descent) (control : Control) (t : Token) (act : Act) :
    ({ d with control } : Descent).perform t act = d.perform t act := by
  cases act <;> rfl

theorem Settles.leads {d : Descent} (h : Settles t d.cursor task records act)
    (control : d.control = .doing task) (found : d.tokens[d.cursor]? = some t) :
    d.Leads records (d.perform t act) := by
  obtain ⟨cursor, place⟩ : ∃ cursor, d.cursor = cursor := ⟨_, rfl⟩
  rw [place] at h
  induction h generalizing d with
  | here acts _ =>
    have first := d.leads_step
    rwa [step_doing control found, notes_doing control found, acts, place] at first
  | @later task next records act acts _ ih =>
    subst place
    have first := d.leads_step
    rw [step_doing control found, notes_doing control found, Task.notes, acts, perform] at first
    have others := ih (d := { d with control := .doing next }) rfl found rfl
    rw [perform_control] at others
    exact first.trans others

end Settles

/-- The task that a statement is at when a reading has come to the stage. -/
def entry : Stage → List Statement → Task
  | .statement, read => .program read
  | .expression [], read => .list read
  | .expression done, read => .expression read done
  | .separator done, read => .comma read done
  | .table done, read => .table read done
  | .terminator done name, read => .terminator read done (some name)

/-- The act that a move of a reading is. -/
def actOf (read : List Statement) : Move → Act
  | .advance next => .take (entry next read)
  | .complete statement => .take (.program (statement :: read))
  | .conclude statement => .finish (statement.toList ++ read).reverse
  | .reject cause => .refuse cause

/-- What a move of a reading writes of the token at the index. -/
def noted (read : List Statement) (t : Token) (cursor : Nat) : Move → List Trace.Record
  | .advance _ => []
  | .complete statement => [Trace.ofStatement statement read.length]
  | .conclude statement => statement.toList.map fun last => Trace.ofStatement last read.length
  | .reject cause => [Trace.ofError ⟨cause, t, cursor⟩]

theorem actOf_ne_leave (read : List Statement) (move : Move) (next : Task) :
    actOf read move ≠ .leave next := by
  cases move <;> simp [actOf]

theorem settles_terminator (t : Token) (cursor : Nat) (read : List Statement) (done : List Expr)
    (name : Option String) :
    let move := Stage.terminated (Stage.built done name) t
    Settles t cursor (.terminator read done name) (noted read t cursor move) (actOf read move) := by
  obtain ⟨kind, literal⟩ := t
  cases kind with
  | semicolon => exact .later rfl (.here rfl (actOf_ne_leave _ _))
  | endOfInput => exact .later rfl (.later rfl (.here rfl (actOf_ne_leave _ _)))
  | _ => exact .here rfl (actOf_ne_leave _ _)

theorem settles_expression {t : Token} {done : List Expr}
    (h : ¬ (done = [] ∧ Stage.endsList t.kind)) (cursor : Nat) (read : List Statement) :
    let move := Stage.read (.expression done) t
    Settles t cursor (.expression read done) (noted read t cursor move) (actOf read move) := by
  intro move
  cases value : t.expression with
  | ok e =>
    have read : move = .advance (.separator (e :: done)) := by simp [move, Stage.read, h, value]
    rw [read]
    exact .take (by rw [Task.act, value]; rfl)
  | error cause =>
    have read : move = .reject cause := by simp [move, Stage.read, h, value]
    rw [read]
    exact .refuse (by rw [Task.act, value])

/-- The procedures do with a token what a reading does at the stage. -/
theorem settles_entry {stage : Stage} (h : stage ≠ .separator []) (read : List Statement)
    (t : Token) (cursor : Nat) : Settles t cursor (entry stage read)
      (noted read t cursor (stage.read t)) (actOf read (stage.read t)) := by
  cases stage with
  | statement =>
    obtain ⟨kind, literal⟩ := t
    cases kind with
    | endOfInput => exact .here rfl (actOf_ne_leave _ _)
    | _ => exact .later rfl (.here rfl (actOf_ne_leave _ _))
  | expression done =>
    cases done with
    | nil =>
      by_cases ends : Stage.endsList t.kind
      · rw [Stage.read, if_pos ⟨rfl, ends⟩]
        exact .refuse (if_pos ends)
      · have left : Task.act (.list read) t = .leave (.expression read []) := if_neg ends
        exact .later left (settles_expression (by simp [ends]) cursor read)
    | cons e done => exact settles_expression (by simp) cursor read
  | separator done =>
    obtain ⟨e, done, rfl⟩ := List.exists_cons_of_ne_nil fun empty => h (empty ▸ rfl)
    have ends := settles_terminator t cursor read (e :: done) none
    obtain ⟨kind, literal⟩ := t
    cases kind with
    | comma => exact .here rfl (actOf_ne_leave _ _)
    | fromWord => exact .later rfl (.here rfl (actOf_ne_leave _ _))
    | _ => exact .later rfl (.later rfl ends)
  | table done =>
    obtain ⟨kind, literal⟩ := t
    cases kind <;> exact .here rfl (actOf_ne_leave _ _)
  | terminator done name => exact settles_terminator t cursor read done (some name)

/-- Where a descent stands that has come as far as the reading. -/
def ofReading (tokens : List Token) (answers : List (Except ReadError (List Statement)))
    (r : Reading) : Descent :=
  match r.status with
  | .within stage => ⟨tokens, r.position, .skipping (entry stage r.statements), answers⟩
  | _ => ⟨tokens, r.position, .doing .rest, r.result :: answers⟩

section Reading

variable {tokens : List Token} {answers : List (Except ReadError (List Statement))} {r : Reading}
  {stage : Stage} {t : Token}

theorem ofReading_within (within : r.status = .within stage) : ofReading tokens answers r =
    ⟨tokens, r.position, .skipping (entry stage r.statements), answers⟩ := by
  simp only [ofReading, within]

theorem perform_actOf {move : Move} (ending : ∀ next, actOf r.statements move = .take next →
      t.kind ≠ .endOfInput) (control : Control) :
    (⟨tokens, r.position, control, answers⟩ : Descent).perform t (actOf r.statements move) =
      ofReading tokens answers (r.make t move) := by
  cases move with
  | advance next => exact if_neg (ending _ rfl)
  | complete statement => exact if_neg (ending _ rfl)
  | conclude statement => rfl
  | reject cause => rfl

theorem ofReading_make (within : r.status = .within stage) (t : Token) (move : Move) :
    Trace.ofReading r ++ noted r.statements t r.position move =
      Trace.ofReading (r.make t move) := by
  cases move with
  | conclude statement =>
    cases statement <;>
      simp [Trace.ofReading, Reading.make, Reading.result, noted, within, List.mapIdx_append]
  | _ => simp [Trace.ofReading, Reading.make, Reading.result, noted, within, List.mapIdx_append]

/-- The descent does with a token what the reading does, and writes what that adds to the
account. -/
theorem leads_push (answers : List (Except ReadError (List Statement)))
    (within : r.status = .within stage) (h : stage ≠ .separator [])
    (found : tokens[r.position]? = some t) : ∃ records,
      Trace.ofReading r ++ records = Trace.ofReading (r.push t) ∧
        (ofReading tokens answers r).Leads records (ofReading tokens answers (r.push t)) := by
  have first := (ofReading tokens answers r).leads_step
  rw [ofReading_within within, notes_skipping rfl] at first
  rw [ofReading_within within]
  by_cases comment : t.kind = .comment
  · have moved : ({ r with position := r.position + 1 } : Reading).status = .within stage := within
    rw [step_comment rfl found comment] at first
    rw [Reading.push_comment within comment, ofReading_within moved]
    refine ⟨[], ?_, first⟩
    simp [Trace.ofReading, Reading.result, within]
  · have settles := settles_entry h r.statements t r.position
    have others := settles.leads
      (d := ⟨tokens, r.position, .doing (entry stage r.statements), answers⟩) rfl found
    rw [perform_actOf fun next take => settles.ne_end take] at others
    rw [step_skipped rfl found comment] at first
    rw [Reading.push_within within comment]
    exact ⟨_, ofReading_make within t _, first.trans others⟩

/-- No reading looks for a separator without an expression in front. -/
theorem push_ne_separator (within : r.status = .within stage) (h : stage ≠ .separator [])
    {next : Stage} (further : (r.push t).status = .within next) : next ≠ .separator [] := by
  rintro rfl
  by_cases comment : t.kind = .comment
  · rw [Reading.push_comment within comment] at further
    exact h (Reading.Status.within.inj (within.symm.trans further))
  · rw [Reading.push_within within comment] at further
    obtain ⟨kind, literal⟩ := t
    cases stage with
    | expression done =>
      rw [Stage.read] at further
      split at further
      · cases further
      · cases value : Token.expression ⟨kind, literal⟩ <;> simp [value, Reading.make] at further
    | _ => cases kind <;> simp [Stage.read, Stage.terminated, Reading.make] at further

/-- The descent does with all that is left what the reading does, if that stops the
reading. -/
theorem leads_reading (answers : List (Except ReadError (List Statement)))
    (within : r.status = .within stage) (h : stage ≠ .separator []) {rest : List Token}
    (left : tokens.drop r.position = rest) (stopped : (r.after rest).Stopped) : ∃ records,
      Trace.ofReading r ++ records = Trace.ofReading (r.after rest) ∧
        (ofReading tokens answers r).Leads records (ofReading tokens answers (r.after rest)) := by
  induction rest generalizing r stage with
  | nil => exact absurd within (stopped stage)
  | cons t rest ih =>
    have found : tokens[r.position]? = some t := by rw [← List.head?_drop, left]; rfl
    obtain ⟨noted, account, first⟩ := leads_push answers within h found
    rw [Reading.after_cons] at stopped ⊢
    by_cases now : (r.push t).Stopped
    · exact ⟨noted, by rw [Reading.after_of_stopped now]; exact ⟨account, first⟩⟩
    · obtain ⟨next, further⟩ := Reading.exists_within now
      have left' : tokens.drop (r.push t).position = rest := by
        rcases Reading.push_cases within t with ⟨-, -, place⟩ | ⟨-, ended, -⟩ |
          ⟨_, -, -, refused⟩
        · rw [place, ← List.drop_drop, left, List.drop_one, List.tail_cons]
        · exact absurd (further.symm.trans ended) (by simp)
        · exact absurd (by simp [Reading.Stopped, refused]) now
      obtain ⟨others, whole, behind⟩ :=
        ih further (push_ne_separator within h further) left' stopped
      exact ⟨noted ++ others, by rw [← List.append_assoc, account, whole], first.trans behind⟩

end Reading

/-! ## Calls -/

theorem leads_comments (next : Task) (answers : List (Except ReadError (List Statement)))
    {tokens : List Token} {cursor : Nat}
    (closing : tokens.getLast?.map (·.kind) = some .endOfInput) (inside : cursor < tokens.length) :
    Leads ⟨tokens, cursor, .skipping next, answers⟩ []
      ⟨tokens, cursor + ((tokens.drop cursor).takeWhile fun t => t.kind = .comment).length,
        .doing next, answers⟩ := by
  induction left : tokens.drop cursor generalizing cursor with
  | nil => exact absurd (List.drop_eq_nil_iff.mp left) (Nat.not_le_of_lt inside)
  | cons t rest ih =>
    have found : tokens[cursor]? = some t := by rw [← List.head?_drop, left]; rfl
    have first := leads_step ⟨tokens, cursor, .skipping next, answers⟩
    rw [notes_skipping rfl] at first
    by_cases comment : t.kind = .comment
    · have left' : tokens.drop (cursor + 1) = rest := by
        rw [← List.drop_drop, left, List.drop_one, List.tail_cons]
      rw [step_comment rfl found comment] at first
      have others := first.trans (ih (succ_lt_length closing found (by simp [comment])) left')
      rwa [Nat.add_assoc, Nat.add_comm 1, ← List.length_cons,
        ← List.takeWhile_cons_of_pos (by simpa using comment)] at others
    · rw [step_skipped rfl found comment] at first
      rwa [List.takeWhile_cons_of_neg (by simpa using comment), List.length_nil, Nat.add_zero]

theorem exists_after_comments (next : Task) (answers : List (Except ReadError (List Statement)))
    {tokens : List Token} {cursor : Nat}
    (closing : tokens.getLast?.map (·.kind) = some .endOfInput) (inside : cursor < tokens.length) :
    ∃ n, (⟨tokens, cursor, .skipping next, answers⟩ : Descent).after (n + 1) =
      ⟨tokens, cursor + ((tokens.drop cursor).takeWhile fun t => t.kind = .comment).length,
        .doing next, answers⟩ := by
  obtain ⟨n, e, -⟩ := leads_comments next answers closing inside
  exact ⟨n, e⟩

theorem takeWhile_closed (tokens : List Token) :
    ((closed tokens).takeWhile fun t => t.kind = .comment) =
      tokens.takeWhile fun t => t.kind = .comment := by
  unfold closed
  split
  · rfl
  · rw [List.takeWhile_append]
    split
    · next all =>
      rw [(List.takeWhile_prefix _).eq_of_length all]
      simp [Token.atEnd]
    · rfl

theorem leads_ofTokens (tokens : List Token) : (ofTokens tokens).Leads []
    ⟨closed tokens, (Session.ofTokens tokens).position, .doing .rest, []⟩ := by
  have start := sound_ofTokens tokens
  have behind := leads_comments .rest [] start.closing start.inside
  rw [Session.ofTokens, ← takeWhile_closed]
  simpa [ofTokens] using behind

/-- A call answers what the reading of a call finds, stops where that does, and writes the
account of it. -/
theorem leads_call {s : Session} {answers : List (Except ReadError (List Statement))}
    (sound : Sound ⟨closed s.tokens, s.position, .doing .rest, answers⟩) :
    Leads ⟨closed s.tokens, s.position, .doing .rest, answers⟩ (Trace.ofReading s.reading)
      ⟨closed s.tokens, s.next.position, .doing .rest, s.reading.result :: answers⟩ := by
  have found := List.getElem?_eq_getElem sound.inside
  have comment := sound.significant _ _ rfl found
  have reading := (Session.reading_eq_after sound.inside).symm
  have stopped : s.reading.Stopped := Reading.stopped_push_end _ rfl
  obtain ⟨records, account, leads⟩ := leads_reading answers (r := .initial s.position) rfl (by simp)
    rfl (reading.symm ▸ stopped)
  rw [show (Reading.initial s.position).position = s.position from rfl, reading] at account leads
  have ends : ofReading (closed s.tokens) answers s.reading =
      ⟨closed s.tokens, s.next.position, .doing .rest, s.reading.result :: answers⟩ := by
    unfold ofReading
    split
    · next stage within => exact absurd within (stopped stage)
    · rfl
  rw [← account, ← ends]
  -- The call begins at the loop over statements, as a reading does behind the comments.
  refine leads.of_step_eq ?_ ?_
  · have entered := step_skipped (d := ofReading (closed s.tokens) answers (.initial s.position))
      rfl found comment
    rw [step_doing rfl found, entered]
    rfl
  · rw [notes_doing rfl found, notes_skipping rfl]
    rfl

/-- The first call answers what the tokens read as, and writes the account of that. -/
theorem leads_first (tokens : List Token) : ∃ position,
    (ofTokens tokens).Leads (Trace.ofReading (Reading.ofTokens 0 tokens))
      ⟨closed tokens, position, .doing .rest, [readTokens tokens]⟩ := by
  have first := leads_ofTokens tokens
  have call := leads_call (s := Session.ofTokens tokens) (first.sound (sound_ofTokens tokens))
  rw [Session.reading_ofTokens, ← readTokens] at call
  exact ⟨_, first.trans call⟩

theorem exists_after_session {s : Session} {answers : List (Except ReadError (List Statement))}
    (sound : Sound ⟨closed s.tokens, s.position, .doing .rest, answers⟩) (calls : Nat) : ∃ n,
    (⟨closed s.tokens, s.position, .doing .rest, answers⟩ : Descent).after n =
      ⟨closed s.tokens, (Session.next^[calls] s).position, .doing .rest,
        (s.results calls).reverse ++ answers⟩ := by
  induction calls generalizing s answers with
  | zero => exact ⟨0, rfl⟩
  | succ calls ih =>
    have call := leads_call sound
    obtain ⟨n, others⟩ := ih (s := s.next) (call.sound sound)
    obtain ⟨m, first, -⟩ := call
    rw [Session.next_tokens] at others
    refine ⟨m + 1 + n, ?_⟩
    rw [after_add, first, others, Function.iterate_succ_apply, Session.results_succ,
      List.reverse_cons, List.append_assoc, List.singleton_append]

/-- After some number of steps the descent has answered so many calls, and as the
session does. -/
theorem exists_after_calls (tokens : List Token) (calls : Nat) : ∃ n,
    (ofTokens tokens).after n =
      ⟨closed tokens, (Session.next^[calls] (Session.ofTokens tokens)).position, .doing .rest,
        ((Session.ofTokens tokens).results calls).reverse⟩ := by
  have start := leads_ofTokens tokens
  obtain ⟨n, e⟩ := exists_after_session (s := Session.ofTokens tokens)
    (start.sound (sound_ofTokens tokens)) calls
  obtain ⟨m, first, -⟩ := start
  rw [List.append_nil] at e
  exact ⟨m + 1 + n, by rw [after_add, first]; exact e⟩

end Descent

/-- **The descent is safe, and its calls end.** However many steps it has made on
whatever tokens, these end in an end token, the cursor is inside of them and not on a
comment where something is to be done, and the next step does not move it back. The
loop over comments comes to the task behind it; every call, and with it its loops over
statements and expressions, comes to its answer in a number of steps that the tokens
left bound; and the answers of so many calls are those of the session. -/
theorem descent_safe (tokens : List Token) :
    (∀ n, let d := (Descent.ofTokens tokens).after n
      d.Sound ∧ d.tokens = closed tokens ∧ d.cursor ≤ d.step.cursor ∧
      (∀ next, d.control = .skipping next → ∃ m, d.after m = { d with
        cursor := d.cursor + ((d.tokens.drop d.cursor).takeWhile fun t => t.kind = .comment).length,
        control := .doing next }) ∧
      ∃ m ≤ 7 * (d.tokens.length - d.cursor) + 7, (d.after m).control = .doing .rest ∧
        (d.after m).answers.length = d.answers.length + 1) ∧
    ∀ calls, ∃ n, (Descent.ofTokens tokens).after n =
      ⟨closed tokens, (Session.next^[calls] (Session.ofTokens tokens)).position, .doing .rest,
        ((Session.ofTokens tokens).results calls).reverse⟩ := by
  refine ⟨fun n => ?_, Descent.exists_after_calls tokens⟩
  obtain ⟨sound, same⟩ := (Descent.sound_ofTokens tokens).after n
  refine ⟨sound, same, sound.cursor_le, fun next control => ?_, ?_⟩
  · generalize (Descent.ofTokens tokens).after n = d at sound control
    obtain ⟨tokens, cursor, _, answers⟩ := d
    subst control
    obtain ⟨m, e⟩ := Descent.exists_after_comments next answers sound.closing sound.inside
    exact ⟨m + 1, e⟩
  · obtain ⟨m, bound, answered⟩ := sound.exists_answer
    exact ⟨m, Nat.le_trans bound (Descent.measure_le _), answered⟩

end SelectLang
