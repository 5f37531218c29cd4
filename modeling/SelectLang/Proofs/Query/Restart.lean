import SelectLang.Proofs.Query.Refusal
import SelectLang.Query.Session
import Mathlib.Logic.Function.Iterate

/-!
# Restarts of a session

A call reads on from the position of the session, and what it finds there does
not depend on the tokens before it: these only move the position of the error. A
call that fails leaves the session at the token of the error, so the next call
reads the tokens from there on; a call that succeeds leaves it at an end.

* `Reading.moved distance`, `ReadError.moved distance`: the same so many tokens
  further on.
* `Session.Finished`: no token is left before an end.

Results:
* `Reading.after_moved`, `Reading.result_moved`: tokens in front of a reading only
  move its position.
* `Session.result_reading`, `Session.reading_eq_after`, `Session.reading_ofTokens`: what a
  call finds.
* `Session.next_of_error`, `Session.finished_next`: where a call leaves the
  session.
* `Session.next_of_finished`: a finished session stays so.
* `Session.exists_readTokens_of_mem`: each result is that of a rest of the tokens.
* `results_restart`: so a session restarts at each error and stays empty behind a
  success.
-/
namespace SelectLang

open SelectLang.Grammar

/-! ## Positions -/

/-- The error, with so many tokens put before it. -/
def ReadError.moved (distance : Nat) (e : ReadError) : ReadError :=
  { e with position := distance + e.position }

namespace Reading

def moved (distance : Nat) (r : Reading) : Reading :=
  { r with position := distance + r.position }

theorem push_moved (distance : Nat) (r : Reading) (t : Token) :
    (r.moved distance).push t = (r.push t).moved distance := by
  obtain ⟨position, statements, status⟩ := r
  cases status with
  | within stage =>
    simp only [push, moved]
    split
    · rfl
    · cases stage.read t <;> rfl
  | ended => rfl
  | failed cause t' => rfl

theorem after_moved (distance : Nat) (r : Reading) (tokens : List Token) :
    (r.moved distance).after tokens = (r.after tokens).moved distance := by
  induction tokens generalizing r with
  | nil => rfl
  | cons t rest ih => rw [after_cons, after_cons, push_moved, ih]

theorem result_moved (distance : Nat) (r : Reading) :
    (r.moved distance).result = r.result.mapError (·.moved distance) := by
  obtain ⟨position, statements, status⟩ := r
  cases status <;> rfl

theorem ofTokens_moved (position : Nat) (tokens : List Token) :
    ofTokens position tokens = (ofTokens 0 tokens).moved position := by
  rw [ofTokens_eq_after, ofTokens_eq_after, ← after_moved]
  rfl

/-- The end token that a reading supplies may stand in the list already. -/
theorem ofTokens_append_end (position : Nat) (tokens : List Token) :
    ofTokens position (tokens ++ [Token.atEnd]) = ofTokens position tokens := by
  rw [ofTokens, ← ofTokens_eq_after]
  exact push_of_stopped (stopped_push_end _ rfl) _

theorem ofTokens_drop_closed (position n : Nat) (tokens : List Token) :
    ofTokens position ((closed tokens).drop n) = ofTokens position (tokens.drop n) := by
  unfold closed
  split
  · rfl
  · rw [List.drop_append]
    -- Of the end token that closes the list, all is left or nothing.
    cases n - tokens.length with
    | zero => rw [List.drop_zero, ofTokens_append_end]
    | succ more => simp

theorem after_comments {comments : List Token} (h : ∀ t ∈ comments, t.kind = .comment)
    (position : Nat) :
    (initial position).after comments = initial (position + comments.length) := by
  induction comments generalizing position with
  | nil => rfl
  | cons t rest ih =>
    obtain ⟨comment, others⟩ := List.forall_mem_cons.mp h
    rw [after_cons, push_comment rfl comment, List.length_cons, Nat.add_comm rest.length,
      ← Nat.add_assoc]
    exact ih others _

theorem ended_of_ok {r : Reading} (stopped : r.Stopped) {statements : List Statement}
    (h : r.result = .ok statements) : r.status = .ended := by
  obtain ⟨position, read, status⟩ := r
  cases status with
  | within stage => exact absurd rfl (stopped stage)
  | ended => rfl
  | failed cause t => cases h

end Reading

theorem readTokens_drop_closed (n : Nat) (tokens : List Token) :
    readTokens ((closed tokens).drop n) = readTokens (tokens.drop n) := by
  rw [readTokens, Reading.ofTokens_drop_closed, readTokens]

theorem getLast?_closed (tokens : List Token) :
    (closed tokens).getLast?.map (·.kind) = some .endOfInput := by
  unfold closed
  split
  · assumption
  · simp [Token.atEnd]

/-! ## Calls -/

namespace Session

/-- No token is left before an end. -/
def Finished (s : Session) : Prop :=
  ∀ t, s.tokens[s.position]? = some t → t.kind = .endOfInput

/-- What a call finds does not depend on the tokens before its position. -/
theorem result_reading (s : Session) :
    s.reading.result = (readTokens (s.tokens.drop s.position)).mapError (·.moved s.position) := by
  rw [reading, Reading.ofTokens_moved, Reading.result_moved, readTokens]

theorem reading_eq_after {s : Session} (inside : s.position < (closed s.tokens).length) :
    s.reading = (Reading.initial s.position).after ((closed s.tokens).drop s.position) := by
  rw [reading, ← Reading.ofTokens_drop_closed, Reading.ofTokens, Reading.push_atEnd_after]
  -- What is left of the tokens ends in an end token already.
  congr 1
  refine if_pos ?_
  rw [List.getLast?_drop, if_neg (Nat.not_le_of_lt inside)]
  exact getLast?_closed s.tokens

/-- The comments that the first call starts behind make no difference to it. -/
theorem reading_ofTokens (tokens : List Token) :
    (ofTokens tokens).reading = Reading.ofTokens 0 tokens := by
  obtain ⟨rest, split⟩ := List.takeWhile_prefix (l := tokens) fun t => t.kind = .comment
  have comments : ∀ t ∈ tokens.takeWhile fun t => t.kind = .comment, t.kind = .comment :=
    fun t ht => by simpa using List.all_eq_true.mp List.all_takeWhile t ht
  rw [reading, ofTokens]
  generalize (tokens.takeWhile fun t => t.kind = .comment) = front at split comments ⊢
  subst split
  rw [List.drop_left, Reading.ofTokens, Reading.ofTokens, Reading.after_append,
    Reading.after_comments comments, Nat.zero_add]

theorem result_reading_ofTokens (tokens : List Token) :
    (ofTokens tokens).reading.result = readTokens tokens := by
  rw [reading_ofTokens, readTokens]

theorem next_of_error {s : Session} {e : ReadError} (h : s.reading.result = .error e) :
    s.next = ⟨s.tokens, e.position⟩ := by
  unfold Reading.result at h
  split at h
  · cases h
    rfl
  · cases h

theorem finished_next {s : Session} {statements : List Statement}
    (h : s.reading.result = .ok statements) : s.next.Finished := by
  have ended : s.reading.status = .ended :=
    Reading.ended_of_ok (Reading.stopped_push_end _ rfl) h
  have whole := Reading.ofTokens_eq_after s.position (s.tokens.drop s.position)
  rw [reading, whole] at ended
  obtain ⟨before, t, rest, split, ending, place⟩ := Reading.exists_end rfl ended
  rw [← whole] at place
  intro t' found
  -- The token at the new position is the one that the reading has ended at.
  have found' : (s.tokens.drop s.position)[before.length]? = some t' := by
    rw [List.getElem?_drop, ← found]
    exact congrArg _ place.symm
  obtain ⟨inside, -⟩ := List.getElem?_eq_some_iff.mp found'
  rw [← List.getElem?_append_left inside, split] at found'
  obtain rfl : t = t' := by simpa using found'
  exact ending

/-- A finished session stays as it is, and its calls find nothing. -/
theorem next_of_finished {s : Session} (h : s.Finished) :
    s.next = s ∧ s.reading.result = .ok [] := by
  have read : s.reading = ⟨s.position, [], .ended⟩ := by
    unfold reading
    cases left : s.tokens.drop s.position with
    | nil => rfl
    | cons t rest =>
      have ending : t.kind = .endOfInput := by
        apply h
        rw [← List.head?_drop, left]
        rfl
      have step : (Reading.initial s.position).push t = ⟨s.position, [], .ended⟩ := by
        simp [Reading.push, Reading.initial, Stage.read, Reading.make, ending]
      have stopped : (⟨s.position, [], .ended⟩ : Reading).Stopped := by simp [Reading.Stopped]
      rw [Reading.ofTokens, Reading.after_cons, step, Reading.after_of_stopped stopped,
        Reading.push_of_stopped stopped]
  refine ⟨?_, ?_⟩
  · rw [next, read]
  · rw [read]
    rfl

theorem getElem?_results (s : Session) (calls i : Nat) :
    (s.results calls)[i]? = if i < calls then some (next^[i] s).reading.result else none := by
  induction calls generalizing s i with
  | zero => rfl
  | succ calls ih =>
    cases i with
    | zero => rfl
    | succ i => simp [results_succ, ih]

theorem tokens_iterate_next (s : Session) (n : Nat) : (next^[n] s).tokens = s.tokens := by
  induction n generalizing s with
  | zero => rfl
  | succ n ih => rw [Function.iterate_succ_apply, ih, next_tokens]

/-- Every call of a session reads what stands behind some beginning of the tokens. -/
theorem exists_readTokens_of_mem {s : Session} {calls : Nat}
    {result : Except ReadError (List Statement)} (h : result ∈ s.results calls) :
    ∃ n, result = (readTokens (s.tokens.drop n)).mapError (·.moved n) := by
  obtain ⟨i, found⟩ := List.mem_iff_getElem?.mp h
  rw [getElem?_results] at found
  split at found
  · obtain rfl := Option.some.inj found
    exact ⟨_, by rw [result_reading, tokens_iterate_next]⟩
  · cases found

end Session

/-- **A session restarts at its errors.** A call that fails leaves the tokens as
they are and the session at the position of the error, and the next call has the
result that the first call of a session of the tokens from there on has, with the
position added to that of its error. Behind a call that succeeds, every call finds
nothing. -/
theorem results_restart (tokens : List Token) (calls i : Nat) :
    (∀ e, ((Session.ofTokens tokens).results calls)[i]? = some (.error e) →
      Session.next^[i + 1] (Session.ofTokens tokens) = ⟨tokens, e.position⟩ ∧
      (i + 1 < calls → ((Session.ofTokens tokens).results calls)[i + 1]? =
        some ((Session.ofTokens ((closed tokens).drop e.position)).reading.result.mapError
          (·.moved e.position)))) ∧
    ∀ statements, ((Session.ofTokens tokens).results calls)[i]? = some (.ok statements) →
      ∀ j, i < j → j < calls → ((Session.ofTokens tokens).results calls)[j]? = some (.ok []) := by
  simp only [Session.getElem?_results]
  refine ⟨?_, ?_⟩
  · intro e found
    split at found
    · have failed := Option.some.inj found
      have left : Session.next^[i + 1] (Session.ofTokens tokens) = ⟨tokens, e.position⟩ := by
        rw [Function.iterate_succ_apply', Session.next_of_error failed,
          Session.tokens_iterate_next]
        rfl
      refine ⟨left, fun further => ?_⟩
      rw [if_pos further, left, Session.result_reading, Session.result_reading_ofTokens,
        readTokens_drop_closed]
    · cases found
  · intro statements found j later further
    split at found
    · have finished := Session.finished_next (Option.some.inj found)
      obtain ⟨same, nothing⟩ := Session.next_of_finished finished
      obtain ⟨more, rfl⟩ := Nat.exists_eq_add_of_le later
      have reached : Session.next^[i + 1 + more] (Session.ofTokens tokens) =
          Session.next (Session.next^[i] (Session.ofTokens tokens)) := by
        rw [Nat.add_comm, Function.iterate_add_apply, Function.iterate_succ_apply',
          Function.iterate_fixed same]
      rw [if_pos further, Nat.succ_eq_add_one, reached, nothing]
    · cases found

/-- Two statements with no separator but a comment between them. -/
def unseparated : List Token := [⟨.comment, "-- a"⟩, ⟨.selectWord, "select"⟩, ⟨.identifier, "a"⟩,
  ⟨.comment, "-- b"⟩, ⟨.selectWord, "select"⟩, ⟨.identifier, "b"⟩]

theorem results_restart_unseparated :
    ((Session.ofTokens unseparated).results 3)[0]? =
        some (.error ⟨.trailingTokens, ⟨.selectWord, "select"⟩, 4⟩) ∧
      Session.next^[1] (Session.ofTokens unseparated) = ⟨unseparated, 4⟩ ∧
      ((Session.ofTokens unseparated).results 3)[1]? =
        some ((Session.ofTokens ((closed unseparated).drop 4)).reading.result.mapError
          (·.moved 4)) ∧
      ((Session.ofTokens unseparated).results 3)[1]? =
        some (.ok [.select ⟨[.column "b"], none, none⟩]) ∧
      ((Session.ofTokens unseparated).results 3)[2]? = some (.ok []) := by
  have failed : ((Session.ofTokens unseparated).results 3)[0]? =
      some (.error ⟨.trailingTokens, ⟨.selectWord, "select"⟩, 4⟩) := rfl
  have read : ((Session.ofTokens unseparated).results 3)[1]? =
      some (.ok [.select ⟨[.column "b"], none, none⟩]) := rfl
  obtain ⟨left, next⟩ := (results_restart unseparated 3 0).1 _ failed
  have nothing := (results_restart unseparated 3 1).2 _ read 2 (by decide) (by decide)
  exact ⟨failed, left, next (by decide), read, nothing⟩

end SelectLang
