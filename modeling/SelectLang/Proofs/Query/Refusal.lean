import SelectLang.Proofs.Query.Derivation

/-!
# Refused tokens

A reading that fails has gone through a beginning of the tokens without a stop,
and refuses the token behind it. So an error tells where the tokens cease to be
the beginning of a program, and nothing behind that place counts for it.

* `Reaches tokens stage`: the tokens are read without a stop, up to the stage.
* `Refuses tokens e`: a beginning of the tokens is read without a stop, and the
  token behind it is refused with the error.

Results:
* `push_cases`: one token moves the reading on by one place, ends it, or is
  refused.
* `exists_stop`: where a reading comes to a stop.
* `reject_cases`, `expression_error_cases`: why a token is refused.
* `readTokens_eq_error_iff`: the errors of reading are those of refused tokens.
* `Refuses.of_invalidNumber`, `Refuses.of_invalidBoolean`: only an expression without
  a value is refused for its value.
* `Refuses.of_prefix`: a token is refused for what stands before it.
* `Reaches.exists_program`: what is read without a stop begins a program.
* `offending_of_readTokens`: so the error is that of the first token that cannot
  stand where it does.
-/
namespace SelectLang

open SelectLang.Grammar

/-! ## What one token does -/

namespace Reading

theorem exists_within {r : Reading} (h : ¬ r.Stopped) : ∃ stage, r.status = .within stage := by
  simpa [Stopped] using h

theorem not_stopped_of_after {r : Reading} {tokens : List Token} {stage : Stage}
    (h : (r.after tokens).status = .within stage) : ¬ r.Stopped := by
  intro stopped
  rw [after_of_stopped stopped] at h
  exact stopped stage h

theorem push_within {r : Reading} {stage : Stage} (h : r.status = .within stage) {t : Token}
    (comment : t.kind ≠ .comment) : r.push t = r.make t (stage.read t) := by
  simp [push, h, comment]

/-- One token moves the reading on by one place, ends it, or is refused. -/
theorem push_cases {r : Reading} {stage : Stage} (h : r.status = .within stage) (t : Token) :
    (∃ next, (r.push t).status = .within next ∧ (r.push t).position = r.position + 1) ∨
      (t.kind = .endOfInput ∧ (r.push t).status = .ended ∧ (r.push t).position = r.position) ∨
      ∃ cause, t.kind ≠ .comment ∧ stage.read t = .reject cause ∧
        r.push t = ⟨r.position, r.statements, .failed cause t⟩ := by
  by_cases comment : t.kind = .comment
  · rw [push_comment h comment]
    exact .inl ⟨stage, h, rfl⟩
  · rw [push_within h comment]
    cases read : stage.read t with
    | advance next => exact .inl ⟨next, rfl, rfl⟩
    | complete statement => exact .inl ⟨.statement, rfl, rfl⟩
    | conclude statement => exact .inr (.inl ⟨end_of_conclude read, rfl, rfl⟩)
    | reject cause => exact .inr (.inr ⟨cause, comment, rfl, rfl⟩)

theorem push_reject {r : Reading} {stage : Stage} (h : r.status = .within stage) {t : Token}
    {cause : ReadError.Cause} (comment : t.kind ≠ .comment) (read : stage.read t = .reject cause) :
    r.push t = ⟨r.position, r.statements, .failed cause t⟩ := by
  rw [push_within h comment, read, make]

theorem stopped_push_end (r : Reading) {t : Token} (ending : t.kind = .endOfInput) :
    (r.push t).Stopped := by
  by_cases stopped : r.Stopped
  · rwa [push_of_stopped stopped]
  · obtain ⟨stage, within⟩ := exists_within stopped
    exact (push_end within ending).1

/-! ## What a list of tokens does -/

/-- The end token that a reading supplies is the one that closes the list. -/
theorem push_atEnd_after (r : Reading) (tokens : List Token) :
    (r.after tokens).push Token.atEnd = r.after (closed tokens) := by
  unfold closed
  split
  · next last =>
    -- Behind the end token that the list has already, the other one does not count.
    obtain ⟨t, found, ending⟩ := Option.map_eq_some_iff.mp last
    obtain ⟨front, rfl⟩ := List.getLast?_eq_some_iff.mp found
    rw [after_append, after_cons, after_nil]
    exact push_of_stopped ((r.after front).stopped_push_end ending) _
  · rw [after_append, after_cons, after_nil]

/-- The end token that a reading supplies is one behind all others. -/
theorem ofTokens_eq_after (position : Nat) (tokens : List Token) :
    ofTokens position tokens = (initial position).after (tokens ++ [Token.atEnd]) := by
  rw [ofTokens, after_append, after_cons, after_nil]

theorem position_after {r : Reading} {tokens : List Token} {stage : Stage}
    (h : (r.after tokens).status = .within stage) :
    (r.after tokens).position = r.position + tokens.length := by
  induction tokens generalizing r with
  | nil => rfl
  | cons t rest ih =>
    obtain ⟨first, within⟩ := exists_within (not_stopped_of_after h)
    rw [after_cons] at h ⊢
    have moved := not_stopped_of_after h
    -- Of what the first token can do, only moving on leaves room for the others.
    rcases push_cases within t with ⟨next, -, place⟩ | ⟨-, ended, -⟩ | ⟨cause, -, -, refused⟩
    · rw [ih h, place, List.length_cons]
      omega
    · exact absurd (by simp [Stopped, ended]) moved
    · exact absurd (by simp [Stopped, refused]) moved

/-- A reading that comes to a stop is stopped by a token at a stage that it has
reached, and what stands behind that token does not count. -/
theorem exists_stop {r : Reading} {stage : Stage} (h : r.status = .within stage)
    {tokens : List Token} (stopped : (r.after tokens).Stopped) :
    ∃ before t rest reached, tokens = before ++ t :: rest ∧
      (r.after before).status = .within reached ∧ r.after tokens = (r.after before).push t := by
  induction tokens generalizing r stage with
  | nil => exact absurd h (stopped stage)
  | cons first rest ih =>
    by_cases now : (r.push first).Stopped
    · exact ⟨[], first, rest, stage, rfl, h, after_of_stopped now rest⟩
    · obtain ⟨next, within⟩ := exists_within now
      obtain ⟨before, t, behind, reached, rfl, status, same⟩ := ih within stopped
      exact ⟨first :: before, t, behind, reached, rfl, status, same⟩

theorem exists_refused {r : Reading} {stage : Stage} (h : r.status = .within stage)
    {tokens : List Token} {cause : ReadError.Cause} {t : Token}
    (failed : (r.after tokens).status = .failed cause t) :
    ∃ before rest reached, tokens = before ++ t :: rest ∧
      (r.after before).status = .within reached ∧ t.kind ≠ .comment ∧
      reached.read t = .reject cause := by
  have stopped : (r.after tokens).Stopped := by simp [Stopped, failed]
  obtain ⟨before, last, rest, reached, rfl, status, same⟩ := exists_stop h stopped
  rw [same] at failed
  rcases push_cases status last with
    ⟨next, within, -⟩ | ⟨-, ended, -⟩ | ⟨cause', comment, read, refused⟩
  · simp [within] at failed
  · simp [ended] at failed
  · rw [refused] at failed
    cases failed
    exact ⟨before, rest, reached, rfl, status, comment, read⟩

theorem exists_end {r : Reading} {stage : Stage} (h : r.status = .within stage)
    {tokens : List Token} (ended : (r.after tokens).status = .ended) :
    ∃ before t rest, tokens = before ++ t :: rest ∧ t.kind = .endOfInput ∧
      (r.after tokens).position = r.position + before.length := by
  have stopped : (r.after tokens).Stopped := by simp [Stopped, ended]
  obtain ⟨before, t, rest, reached, rfl, status, same⟩ := exists_stop h stopped
  rw [same] at ended ⊢
  rcases push_cases status t with ⟨next, within, -⟩ | ⟨ending, -, place⟩ | ⟨cause, -, -, refused⟩
  · simp [within] at ended
  · exact ⟨before, t, rest, rfl, ending, by rw [place, position_after status]⟩
  · simp [refused] at ended

end Reading

/-! ## Refusals -/

/-- The tokens are read without a stop, up to the stage. -/
def Reaches (tokens : List Token) (stage : Stage) : Prop :=
  ((Reading.initial 0).after tokens).status = .within stage

/-- A beginning of the tokens is read without a stop, and the token behind it is
refused with the error. -/
inductive Refuses : List Token → ReadError → Prop
  | intro {before rest : List Token} {stage : Stage} {t : Token} {cause : ReadError.Cause} :
      Reaches before stage → t.kind ≠ .comment → stage.read t = .reject cause →
      Refuses (before ++ t :: rest) ⟨cause, t, before.length⟩

theorem readTokens_eq_result (tokens : List Token) :
    readTokens tokens = ((Reading.initial 0).after (closed tokens)).result := by
  rw [readTokens, Reading.ofTokens, Reading.push_atEnd_after]

theorem Reaches.result_of_refused {before : List Token} {stage : Stage} (h : Reaches before stage)
    {t : Token} {cause : ReadError.Cause} (comment : t.kind ≠ .comment)
    (read : stage.read t = .reject cause) (rest : List Token) :
    ((Reading.initial 0).after (before ++ t :: rest)).result =
      .error ⟨cause, t, before.length⟩ := by
  have step := Reading.push_reject h comment read
  have place : ((Reading.initial 0).after before).position = before.length := by
    rw [Reading.position_after h]
    simp [Reading.initial]
  rw [Reading.after_append, Reading.after_cons, step,
    Reading.after_of_stopped (by simp [Reading.Stopped]), place]
  rfl

theorem result_after_eq_error_iff (tokens : List Token) (e : ReadError) :
    ((Reading.initial 0).after tokens).result = .error e ↔ Refuses tokens e := by
  refine ⟨?_, ?_⟩
  · intro h
    have given := h
    unfold Reading.result at h
    split at h
    · next cause t failed =>
      obtain ⟨before, rest, stage, rfl, reached, comment, read⟩ :=
        Reading.exists_refused (r := Reading.initial 0) rfl failed
      rw [Reaches.result_of_refused reached comment read] at given
      cases given
      exact .intro reached comment read
    · cases h
  · intro h
    cases h with
    | intro reached comment read => exact reached.result_of_refused comment read _

theorem readTokens_eq_error_iff (tokens : List Token) (e : ReadError) :
    readTokens tokens = .error e ↔ Refuses (closed tokens) e := by
  rw [readTokens_eq_result, result_after_eq_error_iff]

/-! ## The first offending token -/

theorem expression_error_cases {t : Token} {cause : ReadError.Cause}
    (h : t.expression = .error cause) :
    cause = .lexical ∧ t.kind = .error ∨ cause = .unexpectedToken ∧ t.kind ≠ .error ∨
      (∃ fault, cause = .invalidNumber fault ∧ t.kind = .numericLiteral ∧
        Binary64.read t.literal = .error fault) ∨
      cause = .invalidBoolean ∧ t.kind = .booleanLiteral ∧ truthValue? t.literal = none := by
  obtain ⟨kind, literal⟩ := t
  cases kind with
  | numericLiteral =>
    simp only [Token.expression] at h
    split at h
    · cases h
    · next fault found =>
      cases h
      exact .inr (.inr (.inl ⟨fault, rfl, rfl, found⟩))
  | booleanLiteral =>
    simp only [Token.expression] at h
    split at h
    · cases h
    · next none =>
      cases h
      exact .inr (.inr (.inr ⟨rfl, rfl, none⟩))
  | _ => cases h <;> simp

/-- Why a token is refused: it stands for no expression, is an error of the scan,
or comes at the wrong place. -/
theorem reject_cases {stage : Stage} {t : Token} {cause : ReadError.Cause}
    (h : stage.read t = .reject cause) :
    t.expression = .error cause ∨ cause = .lexical ∧ t.kind = .error ∨
      cause ∈ [.unsupportedStatement, .noExpressions, .expectedTableName, .trailingTokens] ∧
        t.kind ≠ .error := by
  cases stage with
  | expression done =>
    simp only [Stage.read] at h
    split at h
    · next listOver =>
      have known : t.kind ≠ .error := fun kind => by
        have ends := listOver.2
        rw [kind] at ends
        cases ends
      cases h
      exact .inr (.inr ⟨by simp, known⟩)
    · cases value : t.expression with
      | ok value => simp [value] at h
      | error other =>
        rw [value] at h
        cases h
        exact .inl rfl
  | _ =>
    obtain ⟨kind, literal⟩ := t
    cases kind <;> cases h <;> simp

theorem reject_lexical_iff {stage : Stage} {t : Token} {cause : ReadError.Cause}
    (h : stage.read t = .reject cause) : cause = .lexical ↔ t.kind = .error := by
  rcases reject_cases h with expression | ⟨rfl, kind⟩ | ⟨place, known⟩
  · rcases expression_error_cases expression with
      ⟨rfl, kind⟩ | ⟨rfl, known⟩ | ⟨fault, rfl, kind, -⟩ | ⟨rfl, kind, -⟩
    · simp [kind]
    · simp [known]
    · simp [kind]
    · simp [kind]
  · simp [kind]
  · refine ⟨?_, fun kind => absurd kind known⟩
    rintro rfl
    simp at place

/-- Only an expression is refused for its value. -/
theorem expression_of_reject {stage : Stage} {t : Token} {cause : ReadError.Cause}
    (h : stage.read t = .reject cause)
    (value : cause = .invalidBoolean ∨ ∃ fault, cause = .invalidNumber fault) :
    t.expression = .error cause := by
  rcases reject_cases h with expression | ⟨rfl, -⟩ | ⟨place, -⟩
  · exact expression
  · simp at value
  · rcases value with rfl | ⟨fault, rfl⟩ <;> simp at place

/-- The error is about the token at its position, which is no comment. -/
theorem Refuses.getElem? {tokens : List Token} {e : ReadError} (h : Refuses tokens e) :
    tokens[e.position]? = some e.token ∧ e.token.kind ≠ .comment := by
  cases h with
  | intro _ comment _ => exact ⟨by simp, comment⟩

theorem Refuses.lexical_iff {tokens : List Token} {e : ReadError} (h : Refuses tokens e) :
    e.cause = .lexical ↔ e.token.kind = .error := by
  cases h with
  | intro _ _ read => exact reject_lexical_iff read

theorem Refuses.of_invalidNumber {tokens : List Token} {e : ReadError} (h : Refuses tokens e)
    {fault : NumeralFault} (cause : e.cause = .invalidNumber fault) :
    e.token.kind = .numericLiteral ∧ Binary64.read e.token.literal = .error fault := by
  cases h with
  | intro _ _ read =>
    cases cause
    simpa using expression_error_cases (expression_of_reject read (.inr ⟨_, rfl⟩))

theorem Refuses.of_invalidBoolean {tokens : List Token} {e : ReadError} (h : Refuses tokens e)
    (cause : e.cause = .invalidBoolean) :
    e.token.kind = .booleanLiteral ∧ truthValue? e.token.literal = none := by
  cases h with
  | intro _ _ read =>
    cases cause
    simpa using expression_error_cases (expression_of_reject read (.inl rfl))

theorem mem_of_closed {t : Token} {tokens : List Token} (h : t ∈ closed tokens)
    (inner : t.kind ≠ .endOfInput) : t ∈ tokens := by
  unfold closed at h
  split at h
  · exact h
  · rcases List.mem_append.mp h with mem | ending
    · exact mem
    · rw [List.mem_singleton.mp ending] at inner
      exact absurd rfl inner

theorem Refuses.mem {tokens : List Token} {e : ReadError} (h : Refuses (closed tokens) e)
    (inner : e.token.kind ≠ .endOfInput) : e.token ∈ tokens :=
  mem_of_closed (List.mem_of_getElem? h.getElem?.1) inner

/-- A token is refused for what stands before it, whatever stands behind it. -/
theorem Refuses.of_prefix {tokens others : List Token} {e : ReadError} (h : Refuses tokens e)
    (same : tokens.take (e.position + 1) <+: others) : Refuses others e := by
  cases h with
  | @intro before rest stage t cause reached comment read =>
    obtain ⟨behind, rfl⟩ := same
    have front : (before ++ t :: rest).take (before.length + 1) = before ++ [t] := by
      rw [List.take_length_add_append]
      rfl
    rw [front, List.append_assoc]
    exact .intro reached comment read

theorem prefix_closed (tokens : List Token) : tokens <+: closed tokens := by
  unfold closed
  split
  · exact List.prefix_rfl
  · exact List.prefix_append ..

/-- At every stage the statement can still be finished. -/
theorem exists_continues (stage : Stage) :
    ∃ more statements, Continues stage (significant more) statements := by
  cases stage with
  | statement => exact ⟨[], _, .statement .empty⟩
  | expression done =>
    have listed : Listed [⟨.nullWord, "NULL"⟩] [.literal .null] := .one .null
    have ended : Tabled ([.literal .null] ++ done) [] _ := .plain .last
    exact ⟨[⟨.nullWord, "NULL"⟩], _, Continues.expression listed ended⟩
  | separator done => exact ⟨[], _, .separator (.plain .last)⟩
  | table done => exact ⟨[⟨.identifier, "t"⟩], _, .table .last⟩
  | terminator done name => exact ⟨[], _, .terminator .last⟩

/-- What is read without a stop begins a program. -/
theorem Reaches.exists_program {before : List Token} {stage : Stage} (h : Reaches before stage) :
    ∃ others statements, before <+: others ∧ readTokens others = .ok statements := by
  obtain ⟨more, statements, continues⟩ := exists_continues stage
  refine ⟨before ++ more, ((Reading.initial 0).after before).statements.reverse ++ statements,
    List.prefix_append .., ?_⟩
  rw [readTokens, Reading.ofTokens, Reading.after_append]
  exact (Reading.result_eq_ok_iff h more _).mpr ⟨statements, rfl, continues⟩

theorem Refuses.exists_program {tokens : List Token} {e : ReadError} (h : Refuses tokens e) :
    ∃ others statements, tokens.take e.position <+: others ∧ readTokens others = .ok statements := by
  cases h with
  | intro reached _ _ =>
    rw [List.take_left]
    exact reached.exists_program

/-- **The first offending token.** The error of a list of tokens is about the
token at its position, which is no comment; it is lexical exactly if that token
is an error of the scan. The tokens before the position begin a program, and with
the offending one they have this error whatever stands behind them. -/
theorem offending_of_readTokens {tokens : List Token} {e : ReadError}
    (h : readTokens tokens = .error e) :
    ((closed tokens)[e.position]? = some e.token ∧ e.token.kind ≠ .comment) ∧
      (e.cause = .lexical ↔ e.token.kind = .error) ∧
      (∃ others statements, (closed tokens).take e.position <+: others ∧
        readTokens others = .ok statements) ∧
      ∀ others, (closed tokens).take (e.position + 1) <+: others → readTokens others = .error e := by
  have refuses := (readTokens_eq_error_iff ..).mp h
  refine ⟨refuses.getElem?, refuses.lexical_iff, refuses.exists_program, fun others same => ?_⟩
  exact (readTokens_eq_error_iff ..).mpr (refuses.of_prefix (same.trans (prefix_closed others)))

/-- A statement that breaks off behind a comma. It has comments in it, and no end
token. -/
def brokenOff : List Token := [⟨.comment, "-- a"⟩, ⟨.selectWord, "select"⟩, ⟨.identifier, "a"⟩,
  ⟨.comma, ","⟩, ⟨.comment, "-- b"⟩]

theorem offending_brokenOff :
    readTokens brokenOff = .error ⟨.unexpectedToken, Token.atEnd, 5⟩ ∧
      ((closed brokenOff)[5]? = some Token.atEnd ∧ Token.atEnd.kind ≠ .comment) ∧
      (ReadError.Cause.unexpectedToken = .lexical ↔ Token.atEnd.kind = .error) ∧
      (∃ others statements, (closed brokenOff).take 5 <+: others ∧
        readTokens others = .ok statements) ∧
      ∀ others, (closed brokenOff).take 6 <+: others →
        readTokens others = .error ⟨.unexpectedToken, Token.atEnd, 5⟩ :=
  have broken : readTokens brokenOff = .error ⟨.unexpectedToken, Token.atEnd, 5⟩ := rfl
  ⟨broken, offending_of_readTokens broken⟩

end SelectLang
