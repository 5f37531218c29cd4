import SelectLang.Proofs.Query.Descent
import Mathlib.Order.Monotone.Basic

/-!
# Sessions settle

A call moves the session on only if it begins with `SELECT`, and then it takes that word
with it: no later call begins there again. So the words that are left bound the calls
that can still change anything. Behind as many calls as there are words in the tokens,
the session stays where it is, and every further call has the same result.

* `Session.Placed`: the next call begins at a token that is no comment.
* `Session.wordsLeft`: the number of words `SELECT` from there on.
* `Descent.Begins`: a statement begins with the token under the cursor.

Results:
* `Session.placed_iterate_next`: every call of a session begins at a token.
* `Session.next_cases`: a call leaves the session as it is, or further on and with fewer
  words.
* `Session.iterate_next_settled`: so many words, so many calls that change anything.
* `Descent.Sound.begins_lt`: statements begin further and further on.
* `results_settle`: all this for every list of tokens and every number of calls.
-/
namespace SelectLang

open SelectLang.Grammar

/-! ## Readings move on -/

namespace Reading

theorem position_le_push (r : Reading) (t : Token) : r.position ≤ (r.push t).position := by
  by_cases stopped : r.Stopped
  · exact Nat.le_of_eq (congrArg position (push_of_stopped stopped t)).symm
  · obtain ⟨stage, within⟩ := exists_within stopped
    rcases push_cases within t with ⟨-, -, place⟩ | ⟨-, -, place⟩ | ⟨cause, -, -, refused⟩
    · exact place ▸ Nat.le_succ _
    · exact Nat.le_of_eq place.symm
    · exact Nat.le_of_eq (congrArg position refused).symm

theorem position_le_after (r : Reading) (tokens : List Token) :
    r.position ≤ (r.after tokens).position := by
  induction tokens generalizing r with
  | nil => exact Nat.le_refl _
  | cons t rest ih => exact Nat.le_trans (r.position_le_push t) (ih _)

/-- Where a statement is to begin, `SELECT` is taken, and any other token that is no
comment stops the reading where it is. -/
theorem push_initial (position : Nat) {t : Token} (comment : t.kind ≠ .comment) :
    (t.kind = .selectWord → (initial position).push t =
      ⟨position + 1, [], .within (.expression [])⟩) ∧
    (t.kind ≠ .selectWord → ((initial position).push t).Stopped ∧
      ((initial position).push t).position = position) := by
  rw [push_within rfl comment]
  obtain ⟨kind, literal⟩ := t
  cases kind with
  | selectWord => exact ⟨fun _ => rfl, fun other => absurd rfl other⟩
  | _ => exact ⟨nofun, fun _ => ⟨nofun, rfl⟩⟩

end Reading

/-! ## Calls -/

namespace Session

/-- The next call begins at a token that is no comment. -/
def Placed (s : Session) : Prop :=
  ∃ t, (closed s.tokens)[s.position]? = some t ∧ t.kind ≠ .comment

/-- The number of words `SELECT` from where the next call begins. -/
def wordsLeft (s : Session) : Nat :=
  ((closed s.tokens).drop s.position).countP fun t => t.kind = .selectWord

theorem placed_iterate_next (tokens : List Token) (calls : Nat) :
    (next^[calls] (ofTokens tokens)).Placed := by
  obtain ⟨n, reached⟩ := Descent.exists_after_calls tokens calls
  have sound := ((Descent.sound_ofTokens tokens).after n).1
  rw [reached] at sound
  have found := List.getElem?_eq_getElem sound.inside
  rw [Placed, tokens_iterate_next]
  exact ⟨_, found, sound.significant _ _ rfl found⟩

section Call

variable {s : Session}

/-- What a call can do: nothing, if it does not begin with `SELECT`; else it leaves the
session further on and with fewer words. -/
theorem next_cases (h : s.Placed) : ∃ t, (closed s.tokens)[s.position]? = some t ∧
    (t.kind ≠ .selectWord ∧ s.next = s ∨
      t.kind = .selectWord ∧ s.position < s.next.position ∧ s.next.wordsLeft < s.wordsLeft) := by
  obtain ⟨t, found, comment⟩ := h
  obtain ⟨inside, same⟩ := List.getElem?_eq_some_iff.mp found
  have left := List.drop_eq_getElem_cons inside
  have read := reading_eq_after inside
  rw [left, same, Reading.after_cons] at read
  obtain ⟨taken, refused⟩ := Reading.push_initial s.position comment
  refine ⟨t, found, ?_⟩
  by_cases word : t.kind = .selectWord
  · have further : s.position < s.next.position := by
      have := Reading.position_le_after ((Reading.initial s.position).push t)
        ((closed s.tokens).drop (s.position + 1))
      rw [← read, taken word] at this
      exact this
    refine .inr ⟨word, further, ?_⟩
    -- The words behind the new position are among those behind this one.
    have behind : (closed s.tokens).drop s.next.position <:+
        (closed s.tokens).drop (s.position + 1) := List.drop_suffix_drop_left _ further
    rw [wordsLeft, wordsLeft, next_tokens, left, same,
      List.countP_cons_of_pos (by simpa using word)]
    exact Nat.lt_succ_of_le behind.sublist.countP_le
  · obtain ⟨stopped, place⟩ := refused word
    rw [Reading.after_of_stopped stopped] at read
    refine .inl ⟨word, ?_⟩
    rw [next, read, place]

theorem position_le_next (h : s.Placed) : s.position ≤ s.next.position := by
  obtain ⟨t, -, ⟨-, same⟩ | ⟨-, further, -⟩⟩ := next_cases h
  · exact Nat.le_of_eq (congrArg position same).symm
  · exact Nat.le_of_lt further

/-- A session that has no more words left than calls behind it has settled. -/
theorem iterate_next_settled (placed : ∀ i, (next^[i] s).Placed) {n : Nat}
    (few : s.wordsLeft ≤ n) : next (next^[n] s) = next^[n] s := by
  induction n generalizing s with
  | zero =>
    obtain ⟨t, -, ⟨-, same⟩ | ⟨-, -, fewer⟩⟩ := next_cases (placed 0)
    · exact same
    · exact absurd fewer (by simp [Nat.le_zero.mp few])
  | succ n ih =>
    obtain ⟨t, -, ⟨-, same⟩ | ⟨-, -, fewer⟩⟩ := next_cases (placed 0)
    · rw [Function.iterate_fixed (show next s = s from same)]
      exact same
    · rw [Function.iterate_succ_apply]
      refine ih (fun i => ?_) (Nat.le_of_lt_succ (Nat.lt_of_lt_of_le fewer few))
      rw [← Function.iterate_succ_apply]
      exact placed (i + 1)

end Call

section Tokens

variable (tokens : List Token)

theorem position_iterate_next_mono : Monotone fun i => (next^[i] (ofTokens tokens)).position :=
  monotone_nat_of_le_succ fun i => by
    rw [Function.iterate_succ_apply']
    exact position_le_next (placed_iterate_next tokens i)

/-- A session begins with no more words left than there are in its tokens. -/
theorem wordsLeft_ofTokens :
    (ofTokens tokens).wordsLeft ≤ tokens.countP fun t => t.kind = .selectWord := by
  have inside := (List.drop_sublist (ofTokens tokens).position (closed tokens)).countP_le
    (p := fun t => t.kind = .selectWord)
  refine Nat.le_trans inside (Nat.le_of_eq ?_)
  unfold closed
  split
  · rfl
  · rw [List.countP_append]
    rfl

/-- So behind as many calls as there are words in its tokens it stays as it is. -/
theorem iterate_next_of_le {i : Nat} (h : tokens.countP (fun t => t.kind = .selectWord) ≤ i) :
    next^[i] (ofTokens tokens) =
      next^[tokens.countP fun t => t.kind = .selectWord] (ofTokens tokens) := by
  have settled := iterate_next_settled (placed_iterate_next tokens) (wordsLeft_ofTokens tokens)
  obtain ⟨more, rfl⟩ := Nat.exists_eq_add_of_le h
  rw [Nat.add_comm, Function.iterate_add_apply, Function.iterate_fixed settled]

end Tokens

end Session

/-! ## Statements -/

namespace Descent

/-- A statement begins with the token under the cursor. -/
def Begins (d : Descent) : Prop :=
  ∃ read t, d.control = .doing (.statement read) ∧ d.tokens[d.cursor]? = some t ∧
    t.kind = .selectWord

section Begins

variable {d : Descent}

theorem Sound.cursor_le_after (h : d.Sound) (n : Nat) : d.cursor ≤ (d.after n).cursor := by
  induction n with
  | zero => exact Nat.le_refl _
  | succ n ih => exact Nat.le_trans ih (h.after n).1.cursor_le

theorem Begins.cursor_step (h : d.Begins) : d.step.cursor = d.cursor + 1 := by
  obtain ⟨read, t, control, found, word⟩ := h
  have act : Task.act (.statement read) t = .take (.list read) := by rw [Task.act, word]
  rw [step_doing control found, act, perform, if_neg (by simp [word])]

/-- Behind a statement that has begun, statements begin further on. -/
theorem Sound.begins_lt (h : d.Sound) (begins : d.Begins) {n : Nat} :
    d.cursor < (d.after (n + 1)).cursor := by
  have further := h.step.cursor_le_after n
  rw [begins.cursor_step, ← after_one, ← after_add, Nat.add_comm 1] at further
  exact further

end Begins

end Descent

/-- **Sessions settle.** In a session of any number of calls, the calls begin further and
further on. A call begins at a token, and if that is no `SELECT`, it leaves the session as
it is; and behind a step that begins a statement with a word, no step of the session is at
that word again. From the call on that has as many calls before it as there are words in
the tokens, all calls have one result. -/
theorem results_settle (tokens : List Token) :
    (∀ i j, i ≤ j → (Session.next^[i] (Session.ofTokens tokens)).position ≤
        (Session.next^[j] (Session.ofTokens tokens)).position) ∧
      (∀ m n, m < n → ((Descent.ofTokens tokens).after m).Begins →
        ((Descent.ofTokens tokens).after m).cursor <
          ((Descent.ofTokens tokens).after n).cursor) ∧
      (∀ i, ∃ t, (closed tokens)[(Session.next^[i] (Session.ofTokens tokens)).position]? = some t ∧
        (t.kind ≠ .selectWord → Session.next^[i + 1] (Session.ofTokens tokens) =
          Session.next^[i] (Session.ofTokens tokens))) ∧
      ∃ result, ∀ calls i, tokens.countP (fun t => t.kind = .selectWord) ≤ i → i < calls →
        ((Session.ofTokens tokens).results calls)[i]? = some result := by
  refine ⟨fun i j le => Session.position_iterate_next_mono tokens le, fun m n later begins => ?_,
    fun i => ?_, (Session.next^[tokens.countP fun t => t.kind = .selectWord]
      (Session.ofTokens tokens)).reading.result, fun calls i settled further => ?_⟩
  · obtain ⟨k, rfl⟩ := Nat.exists_eq_add_of_lt later
    have sound := ((Descent.sound_ofTokens tokens).after m).1
    rw [Nat.add_assoc, Descent.after_add]
    exact sound.begins_lt begins
  · obtain ⟨t, found, what⟩ := Session.next_cases (Session.placed_iterate_next tokens i)
    rw [Session.tokens_iterate_next] at found
    refine ⟨t, found, fun other => ?_⟩
    rcases what with ⟨-, same⟩ | ⟨word, -, -⟩
    · rw [Function.iterate_succ_apply', same]
    · exact absurd word other
  · rw [Session.getElem?_results, if_pos further, Session.iterate_next_of_le tokens settled]

/-- Two statements, the first of which breaks off before the second, and that before a
name. -/
def abandoned : List Token := [⟨.selectWord, "select"⟩, ⟨.selectWord, "select"⟩,
  ⟨.identifier, "a"⟩, ⟨.comment, "-- b"⟩, ⟨.identifier, "c"⟩]

theorem results_settle_abandoned :
    (Session.next^[1] (Session.ofTokens abandoned)).position ≤
        (Session.next^[2] (Session.ofTokens abandoned)).position ∧
      ((Descent.ofTokens abandoned).after 3).Begins ∧
      ((Descent.ofTokens abandoned).after 9).Begins ∧
      ((Descent.ofTokens abandoned).after 3).cursor <
        ((Descent.ofTokens abandoned).after 9).cursor ∧
      (closed abandoned)[(Session.next^[2] (Session.ofTokens abandoned)).position]? =
        some ⟨.identifier, "c"⟩ ∧
      Session.next^[3] (Session.ofTokens abandoned) =
        Session.next^[2] (Session.ofTokens abandoned) ∧
      ((Session.ofTokens abandoned).results 9)[2]? =
        some (.error ⟨.unsupportedStatement, ⟨.identifier, "c"⟩, 4⟩) ∧
      ((Session.ofTokens abandoned).results 9)[8]? =
        some (.error ⟨.unsupportedStatement, ⟨.identifier, "c"⟩, 4⟩) := by
  obtain ⟨further, statements, calls, result, settled⟩ := results_settle abandoned
  have first : ((Descent.ofTokens abandoned).after 3).Begins := ⟨[], _, rfl, rfl, rfl⟩
  have second : ((Descent.ofTokens abandoned).after 9).Begins := ⟨[], _, rfl, rfl, rfl⟩
  obtain ⟨t, found, unchanged⟩ := calls 2
  have name : (closed abandoned)[(Session.next^[2] (Session.ofTokens abandoned)).position]? =
      some ⟨.identifier, "c"⟩ := rfl
  obtain rfl := Option.some.inj (name.symm.trans found)
  have third : ((Session.ofTokens abandoned).results 9)[2]? =
      some (.error ⟨.unsupportedStatement, ⟨.identifier, "c"⟩, 4⟩) := rfl
  have last := settled 9 8 (by decide) (by decide)
  rw [← settled 9 2 (by decide) (by decide), third] at last
  exact ⟨further 1 2 (by decide), first, second, statements 3 9 (by decide) first, name,
    unchanged (by decide), third, last⟩

end SelectLang
