import SelectLang.Proofs.Query.Refusal
import Mathlib.Data.List.Basic

/-!
# Comments

A reading passes over comments, wherever they stand. Without them the same is
read, or the same token refused; only its index is another one, since comments
count for positions.

* `uncommented tokens`: the tokens without the comments among them.
* `Reading.Alike`: two readings are the same but for the position.

Results:
* `Alike.after_uncommented`: comments make no difference to a reading but for the
  position.
* `findIdxNth_split`: the index of a token from the number of tokens before it that
  count.
* `Refuses.uncommented`: what is refused is refused without the comments, too.
* `readTokens_uncommented`: so comments change nothing but the positions of errors.
-/
namespace SelectLang

open SelectLang.Grammar

def uncommented (tokens : List Token) : List Token := tokens.filter fun t => t.kind ≠ .comment

theorem uncommented_append (a b : List Token) :
    uncommented (a ++ b) = uncommented a ++ uncommented b :=
  List.filter_append ..

theorem uncommented_cons_comment {t : Token} (h : t.kind = .comment) (tokens : List Token) :
    uncommented (t :: tokens) = uncommented tokens := by
  simp [uncommented, h]

theorem uncommented_cons {t : Token} (h : t.kind ≠ .comment) (tokens : List Token) :
    uncommented (t :: tokens) = t :: uncommented tokens := by
  simp [uncommented, h]

/-! ## Readings without comments -/

namespace Reading

/-- The readings are the same but for the position. -/
structure Alike (r s : Reading) : Prop where
  statements : r.statements = s.statements
  status : r.status = s.status

variable {r s : Reading}

theorem Alike.refl (r : Reading) : r.Alike r := ⟨rfl, rfl⟩

theorem Alike.symm (h : r.Alike s) : s.Alike r := ⟨h.statements.symm, h.status.symm⟩

theorem Alike.push (h : r.Alike s) (t : Token) : (r.push t).Alike (s.push t) := by
  obtain ⟨n, statements, status⟩ := r
  obtain ⟨m, _, _⟩ := s
  obtain ⟨rfl, rfl⟩ := h
  cases status with
  | within stage =>
    simp only [Reading.push]
    split
    · exact ⟨rfl, rfl⟩
    · cases stage.read t <;> exact ⟨rfl, rfl⟩
  | ended => exact ⟨rfl, rfl⟩
  | failed cause t' => exact ⟨rfl, rfl⟩

theorem Alike.push_comment (h : r.Alike s) {t : Token} (comment : t.kind = .comment) :
    r.Alike (s.push t) := by
  by_cases stopped : s.Stopped
  · rwa [push_of_stopped stopped]
  · obtain ⟨stage, within⟩ := exists_within stopped
    rw [Reading.push_comment within comment]
    exact ⟨h.statements, h.status⟩

theorem Alike.after_uncommented (h : r.Alike s) (tokens : List Token) :
    (r.after (uncommented tokens)).Alike (s.after tokens) := by
  induction tokens generalizing r s with
  | nil => exact h
  | cons t rest ih =>
    by_cases comment : t.kind = .comment
    · rw [uncommented_cons_comment comment, after_cons]
      exact ih (h.push_comment comment)
    · rw [uncommented_cons comment, after_cons, after_cons]
      exact ih (h.push t)

theorem Alike.result_ok (h : r.Alike s) {statements : List Statement}
    (read : r.result = .ok statements) : s.result = .ok statements := by
  unfold result at read ⊢
  rw [← h.status, ← h.statements]
  split at read
  · cases read
  · exact read

end Reading

/-! ## Positions -/

/-- The index of an element from the number of elements before it that count. -/
theorem findIdxNth_split {α : Type} {p : α → Bool} (before : List α) {a : α} (counts : p a)
    (rest : List α) :
    (before ++ a :: rest).findIdxNth p (before.filter p).length = before.length := by
  induction before with
  | nil => simp [counts]
  | cons b before ih =>
    by_cases hb : p b
    · simp [hb, ih]
    · rw [List.cons_append, List.findIdxNth_cons_of_neg (by simpa using hb),
        List.filter_cons_of_neg hb, ih, List.length_cons]

theorem isPrefix_closed_append (tokens : List Token) : closed tokens <+: tokens ++ [Token.atEnd] := by
  unfold closed
  split
  · exact List.prefix_append ..
  · exact List.prefix_rfl

theorem readTokens_eq_error_iff_append (tokens : List Token) (e : ReadError) :
    readTokens tokens = .error e ↔ Refuses (tokens ++ [Token.atEnd]) e := by
  rw [readTokens, Reading.ofTokens_eq_after, result_after_eq_error_iff]

/-- A token that is refused is refused without the comments, too; it then stands
behind fewer tokens. -/
theorem Refuses.uncommented {tokens : List Token} {e : ReadError} (h : Refuses tokens e) :
    ∃ n, Refuses (uncommented tokens) { e with position := n } ∧
      tokens.findIdxNth (fun t => t.kind ≠ .comment) n = e.position := by
  cases h with
  | @intro before rest stage t cause reached comment read =>
    have reached' : Reaches (SelectLang.uncommented before) stage :=
      ((Reading.Alike.refl _).after_uncommented before).status.trans reached
    refine ⟨(SelectLang.uncommented before).length, ?_, ?_⟩
    · rw [uncommented_append, uncommented_cons comment]
      exact .intro reached' comment read
    · exact findIdxNth_split before (by simpa using comment) rest

theorem readTokens_uncommented_of_error {tokens : List Token} {e : ReadError}
    (h : readTokens tokens = .error e) :
    ∃ n, readTokens (uncommented tokens) = .error { e with position := n } ∧
      (uncommented (closed tokens))[n]? = some e.token ∧
      (closed tokens).findIdxNth (fun t => t.kind ≠ .comment) n = e.position := by
  obtain ⟨n, refuses, place⟩ := ((readTokens_eq_error_iff tokens e).mp h).uncommented
  refine ⟨n, ?_, refuses.getElem?.1, place⟩
  have longer : uncommented (closed tokens) <+: uncommented tokens ++ [Token.atEnd] := by
    have := (isPrefix_closed_append tokens).filter fun t => decide (t.kind ≠ .comment)
    rwa [List.filter_append] at this
  rw [readTokens_eq_error_iff_append]
  exact refuses.of_prefix ((List.take_prefix ..).trans longer)

theorem readTokens_uncommented_of_ok {tokens : List Token} {statements : List Statement}
    (h : readTokens tokens = .ok statements) : readTokens (uncommented tokens) = .ok statements := by
  have alike := (Reading.Alike.refl (Reading.initial 0)).after_uncommented tokens
  exact (alike.push Token.atEnd).symm.result_ok h

/-- **Comments do not count.** Tokens are read as they are without their comments.
If these have an error, it is the same error, at the token that has so many tokens
other than comments before it; and there is one, the token of the error. -/
theorem readTokens_uncommented (tokens : List Token) :
    (readTokens tokens = (readTokens (uncommented tokens)).mapError fun e =>
        { e with position :=
            (closed tokens).findIdxNth (fun t => t.kind ≠ .comment) e.position }) ∧
      ∀ e, readTokens (uncommented tokens) = .error e →
        (uncommented (closed tokens))[e.position]? = some e.token := by
  cases read : readTokens tokens with
  | error e =>
    obtain ⟨n, failed, found, place⟩ := readTokens_uncommented_of_error read
    rw [failed]
    refine ⟨by rw [Except.mapError, place], fun other same => ?_⟩
    obtain rfl := Except.error.inj same
    exact found
  | ok statements =>
    rw [readTokens_uncommented_of_ok read]
    exact ⟨rfl, fun e same => by cases same⟩

end SelectLang
