import SelectLang.Proofs.Query.Comments
import SelectLang.Proofs.Query.Restart
import SelectLang.Proofs.Query.RoundTrip
import SelectLang.Proofs.Token.Continuation
import Mathlib.Data.List.Induction

/-!
# Programs behind each other

Behind a program that ends in a semicolon, or has no statement, the next line begins
a program of its own: its statements follow those of the first, and its error is the
error of both, only further on.

* `Reading.following older`: the reading with older statements before its own.

Results:
* `ne_error_of_parse`: no token of a program is an error of the scan.
* `exists_front_of_parse`: so a program comes to its end.
* `Reading.result_following`: older statements stand before those of a reading and
  do not change its error.
* `Reading.stage_of_separated`: behind a semicolon a statement may begin.
* `Reading.after_separated`: there a reading is as at the beginning, but for the position
  and the statements before.
* `parse_append`: so the program of two texts is that of the one and then that of the
  other.
-/
namespace SelectLang

open SelectLang.Token SelectLang.Grammar

/-! ## The tokens of a program -/

theorem significant_eq_uncommented {tokens : List Token}
    (inner : ∀ t ∈ tokens, t.kind ≠ .endOfInput) : significant tokens = uncommented tokens := by
  rw [significant, List.takeWhile_eq_self_iff.mpr (by simpa using inner)]
  rfl

theorem ne_error_of_parse {source : String} {statements : List Statement}
    (h : parse source = .ok statements) : ∀ t ∈ lex source, t.kind ≠ .error := by
  obtain ⟨body, last, tokens, inner⟩ := (lexes_lex source).exists_body
  have program := (readTokens_eq_ok _ _).mp h
  intro t ht error
  rw [tokens] at ht program
  rcases List.mem_append.mp ht with ht | ht
  · exact (inner t ht).2.1 error
  · -- An error is the last token, and there is no end before it.
    obtain rfl := List.mem_singleton.mp ht
    have ends : ∀ s ∈ body ++ [t], s.kind ≠ .endOfInput := by
      refine List.forall_mem_append.mpr ⟨fun s hs => (inner s hs).1, ?_⟩
      simp [error]
    rw [significant_eq_uncommented ends] at program
    have known := program.kind_mem t (List.mem_filter.mpr ⟨by simp, by simp [error]⟩)
    rw [error] at known
    exact absurd known (by decide)

/-- The tokens of a program end with the end of the text, and only with that. -/
theorem exists_front_of_parse {source : String} {statements : List Statement}
    (h : parse source = .ok statements) :
    ∃ front, lex source = front ++ [Token.atEnd] ∧ ∀ t ∈ front, t.kind ≠ .endOfInput := by
  obtain ⟨_, _, _, _, _, last, final, leaves⟩ := (lexes_lex source).exists_gaps
  obtain ⟨body, last', tokens, inner⟩ := (lexes_lex source).exists_body
  obtain rfl : last' = last := by
    rw [tokens, List.getLast?_append, List.getLast?_singleton] at final
    exact Option.some.inj final
  cases leaves with
  | atEnd => exact ⟨body, tokens, fun t ht => (inner t ht).1⟩
  | error _ => exact absurd rfl (ne_error_of_parse h _ (List.mem_of_getLast? final))

/-! ## Readings behind statements -/

namespace Reading

/-- The reading with older statements before its own. -/
def following (older : List Statement) (r : Reading) : Reading :=
  { r with statements := r.statements ++ older }

theorem push_following (older : List Statement) (r : Reading) (t : Token) :
    (r.following older).push t = (r.push t).following older := by
  obtain ⟨position, statements, status⟩ := r
  cases status with
  | within stage =>
    simp only [push, following]
    split
    · rfl
    · cases stage.read t <;> simp [make]
  | ended => rfl
  | failed cause t' => rfl

theorem after_following (older : List Statement) (r : Reading) (tokens : List Token) :
    (r.following older).after tokens = (r.after tokens).following older := by
  induction tokens generalizing r with
  | nil => rfl
  | cons t rest ih => rw [after_cons, after_cons, push_following, ih]

/-- Older statements stand before those of a reading and do not change its error. -/
theorem result_following (older : List Statement) (r : Reading) :
    (r.following older).result = r.result.map (older.reverse ++ ·) := by
  obtain ⟨position, statements, status⟩ := r
  cases status <;> simp [result, following, Except.map]

end Reading

/-- A semicolon ends a statement or is refused. -/
theorem Stage.read_semicolon (stage : Stage) {t : Token} (h : t.kind = .semicolon) :
    (∃ statement, stage.read t = .complete statement) ∨
      ∃ cause, stage.read t = .reject cause := by
  obtain ⟨kind, literal⟩ := t
  cases h
  cases stage with
  | separator done => exact .inl ⟨_, rfl⟩
  | terminator done name => exact .inl ⟨_, rfl⟩
  | statement => exact .inr ⟨_, rfl⟩
  | table done => exact .inr ⟨_, rfl⟩
  | expression done =>
    refine .inr ?_
    simp only [Stage.read]
    split
    · exact ⟨_, rfl⟩
    · exact ⟨_, rfl⟩

namespace Reading

/-- Behind a semicolon, and at the beginning, a statement may begin. -/
theorem stage_of_separated {tokens : List Token} {stage : Stage}
    (within : ((initial 0).after tokens).status = .within stage)
    (separated : ∀ t, (uncommented tokens).getLast? = some t → t.kind = .semicolon) :
    stage = .statement := by
  induction tokens using List.reverseRecOn generalizing stage with
  | nil =>
    cases within
    rfl
  | append_singleton before t ih =>
    rw [after_append] at within
    obtain ⟨reached, inside⟩ := exists_within (not_stopped_of_after within)
    rw [after_cons, after_nil] at within
    rw [uncommented_append] at separated
    by_cases comment : t.kind = .comment
    · rw [push_comment inside comment] at within
      rw [uncommented_cons_comment comment] at separated
      exact ih within (by simpa [uncommented] using separated)
    · have semicolon : t.kind = .semicolon := separated t (by simp [uncommented, comment])
      rw [push_within inside comment] at within
      rcases reached.read_semicolon semicolon with ⟨statement, read⟩ | ⟨cause, read⟩
      · rw [read] at within
        cases within
        rfl
      · rw [read] at within
        cases within

/-- Behind a semicolon a reading is as at the beginning, but for the position and the
statements before, which are those of the tokens. -/
theorem after_separated {tokens : List Token} {stage : Stage}
    (within : ((initial 0).after tokens).status = .within stage)
    (separated : ∀ t, (uncommented tokens).getLast? = some t → t.kind = .semicolon) :
    ∃ statements, (initial 0).after tokens = (initial tokens.length).following statements.reverse ∧
      readTokens tokens = .ok statements := by
  obtain rfl := stage_of_separated within separated
  have place := position_after within
  rw [readTokens, ofTokens]
  generalize (initial 0).after tokens = r at within place ⊢
  obtain ⟨position, done, status⟩ := r
  cases within
  refine ⟨done.reverse, ?_, rfl⟩
  simp only [initial, Nat.zero_add] at place
  simp [following, initial, place]

/-- So it is behind the tokens of a program that ends in a semicolon. -/
theorem after_program {front : List Token} {statements : List Statement}
    (inner : ∀ t ∈ front, t.kind ≠ .endOfInput) (read : readTokens front = .ok statements)
    (separated : ∀ t, (uncommented front).getLast? = some t → t.kind = .semicolon) :
    (initial 0).after front = (initial front.length).following statements.reverse := by
  have going : ¬ ((initial 0).after front).Stopped := fun stopped => by
    rw [readTokens, ofTokens, push_of_stopped stopped] at read
    obtain ⟨before, t, rest, rfl, ending, -⟩ :=
      exists_end (r := initial 0) rfl (ended_of_ok stopped read)
    exact inner t (by simp) ending
  obtain ⟨stage, within⟩ := exists_within going
  obtain ⟨others, seam, complete⟩ := after_separated within separated
  cases read.symm.trans complete
  exact seam

end Reading

/-- **Programs compose.** Behind a program that ends in a semicolon or has no
statement, a text on the next line is read by itself: its statements follow those of
the program, or its error is the error of both texts, moved by the tokens before it. -/
theorem parse_append {first : String} {statements : List Statement}
    (read : parse first = .ok statements)
    (separated : ∀ t, (significant (lex first)).getLast? = some t → t.kind = .semicolon)
    (second : String) :
    parse (first ++ "\n" ++ second) =
      ((parse second).map (statements ++ ·)).mapError
        (·.moved ((lex first).countP fun t => t.kind ≠ .endOfInput)) := by
  obtain ⟨front, tokens, inner⟩ := exists_front_of_parse read
  have cut : lex (first ++ "\n" ++ second) = front ++ lex second := by
    have whole : (lex first).getLast? = some Token.atEnd := by simp [tokens]
    have lines := lex_append_lineEnd whole (show isLineEnd '\n' by decide) second
    rwa [tokens, List.dropLast_concat] at lines
  have count : (lex first).countP (fun t => t.kind ≠ .endOfInput) = front.length := by
    rw [tokens, List.countP_append, List.countP_eq_length.mpr (by simpa using inner)]
    rfl
  rw [parse, tokens, readTokens, Reading.ofTokens_append_end, ← readTokens] at read
  rw [tokens, significant_append_end, significant_eq_uncommented inner] at separated
  have seam := Reading.after_program inner read separated
  rw [count, parse, cut, readTokens, Reading.ofTokens, Reading.after_append, seam,
    Reading.after_following, Reading.push_following, ← Reading.ofTokens, Reading.result_following,
    Reading.ofTokens_moved, Reading.result_moved, List.reverse_reverse, parse, readTokens]
  cases (Reading.ofTokens 0 (lex second)).result <;> rfl

/-- A program with a comment behind its last semicolon. -/
def separatedFirst : String := "-- a\nselect \x27;\x27 from t;-- b"

theorem parse_append_separated :
    parse separatedFirst = .ok [.select ⟨[.literal (.string ";")], some "t", none⟩] ∧
      (∀ t, (significant (lex separatedFirst)).getLast? = some t → t.kind = .semicolon) ∧
      parse "select b" = .ok [.select ⟨[.column "b"], none, none⟩] ∧
      parse (separatedFirst ++ "\n" ++ "select b") =
        .ok [.select ⟨[.literal (.string ";")], some "t", none⟩,
          .select ⟨[.column "b"], none, none⟩] ∧
      parse "-- c\nfrom" = .error ⟨.unsupportedStatement, ⟨.fromWord, "from"⟩, 1⟩ ∧
      parse (separatedFirst ++ "\n" ++ "-- c\nfrom") =
        .error ⟨.unsupportedStatement, ⟨.fromWord, "from"⟩, 8⟩ := by
  have read : parse separatedFirst =
      .ok [.select ⟨[.literal (.string ";")], some "t", none⟩] := by decide +kernel
  have last : (significant (lex separatedFirst)).getLast? = some ⟨.semicolon, ";"⟩ := by
    decide +kernel
  have separated (t : Token) (ht : (significant (lex separatedFirst)).getLast? = some t) :
      t.kind = .semicolon := by
    rw [last] at ht
    cases ht
    rfl
  have count : (lex separatedFirst).countP (fun t => t.kind ≠ .endOfInput) = 7 := by
    decide +kernel
  have second : parse "select b" = .ok [.select ⟨[.column "b"], none, none⟩] := by decide +kernel
  have failed : parse "-- c\nfrom" =
      .error ⟨.unsupportedStatement, ⟨.fromWord, "from"⟩, 1⟩ := by decide +kernel
  refine ⟨read, separated, second, ?_, failed, ?_⟩
  · rw [parse_append read separated, second]
    rfl
  · rw [parse_append read separated, failed, count]
    rfl

end SelectLang
