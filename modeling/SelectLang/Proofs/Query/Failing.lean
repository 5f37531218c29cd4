import SelectLang.Proofs.Query.Composition

/-!
# The statement that fails

The statements of a list of tokens are told apart by its semicolons alone. The error of
a reading stands in one of them, and the statements before that are read: they are those
of the tokens before it, and the tokens from its first one on have the error by
themselves.

* `BeginsAt tokens position i`: the statement that the token at the position stands in
  begins at the index.

Results:
* `exists_separated`: where the last statement of a list of tokens begins.
* `Reading.statements_after`: no statement is complete without a semicolon.
* `exists_beginsAt`: so the statement that fails has all others before it.
-/
namespace SelectLang

open SelectLang.Grammar

/-- The statement that the token at the position stands in begins at the index, behind
the last semicolon before it and the comments there. -/
structure BeginsAt (tokens : List Token) (position i : Nat) : Prop where
  le : i ≤ position
  separated : ∀ t, (uncommented (tokens.take i)).getLast? = some t → t.kind = .semicolon
  unbroken : ∀ t ∈ (tokens.take position).drop i, t.kind ≠ .semicolon
  significant : ∀ t, tokens[i]? = some t → t.kind ≠ .comment

theorem BeginsAt.unique {tokens : List Token} {position i j : Nat} (h : BeginsAt tokens position i)
    (h' : BeginsAt tokens position j) (inside : position ≤ tokens.length) : i = j := by
  have not_lt {i j : Nat} (h : BeginsAt tokens position i) (h' : BeginsAt tokens position j) :
      ¬ i < j := by
    intro lt
    have bound : i < tokens.length := Nat.lt_of_lt_of_le (Nat.lt_of_lt_of_le lt h'.le) inside
    have first := h.significant _ (List.getElem?_eq_getElem bound)
    -- Of the tokens from the one place to the other the first counts, so there is a last.
    obtain ⟨others, front⟩ : ∃ others, tokens.take j = tokens.take i ++ tokens[i] :: others := by
      obtain ⟨more, e⟩ := List.take_prefix_take_left (l := tokens) (Nat.succ_le_of_lt lt)
      refine ⟨more, ?_⟩
      rw [← e, List.take_succ_eq_append_getElem bound, List.append_assoc, List.singleton_append]
    obtain ⟨last, final⟩ : ∃ last, (uncommented (tokens[i] :: others)).getLast? = some last := by
      rw [uncommented_cons first, List.getLast?_cons]
      exact ⟨_, rfl⟩
    refine h.unbroken last ?_ (h'.separated last ?_)
    · obtain ⟨more, e⟩ := List.take_prefix_take_left (l := tokens) h'.le
      rw [← e, front, List.append_assoc,
        List.drop_left' (List.length_take_of_le (Nat.le_of_lt bound))]
      exact List.mem_append_left _ (List.mem_of_mem_filter (List.mem_of_getLast? final))
    · rw [front, uncommented_append, List.getLast?_append, final]
      rfl
  exact Nat.le_antisymm (Nat.le_of_not_lt (not_lt h' h)) (Nat.le_of_not_lt (not_lt h h'))

/-- The last statement of a list of tokens begins behind its last semicolon and the
comments there. -/
theorem exists_separated (tokens : List Token) : ∃ front last, tokens = front ++ last ∧
    (∀ t, (uncommented front).getLast? = some t → t.kind = .semicolon) ∧
    (∀ t ∈ last, t.kind ≠ .semicolon) ∧ ∀ t, last.head? = some t → t.kind ≠ .comment := by
  induction tokens using List.reverseRecOn with
  | nil => exact ⟨[], [], rfl, by simp [uncommented], by simp, by simp⟩
  | append_singleton before t ih =>
    obtain ⟨front, last, rfl, separated, unbroken, significant⟩ := ih
    by_cases semicolon : t.kind = .semicolon
    · refine ⟨front ++ last ++ [t], [], by simp, fun s hs => ?_, by simp, by simp⟩
      have same : t = s := by simpa [uncommented, semicolon] using hs
      exact same ▸ semicolon
    by_cases between : last = [] ∧ t.kind = .comment
    · obtain ⟨rfl, comment⟩ := between
      refine ⟨front ++ [t], [], by simp, fun s hs => separated s ?_, by simp, by simp⟩
      simpa [uncommented, comment] using hs
    · refine ⟨front, last ++ [t], by simp, separated, ?_, fun s hs => ?_⟩
      · exact List.forall_mem_append.mpr ⟨unbroken, by simpa using semicolon⟩
      · cases last with
        | nil =>
          obtain rfl : t = s := Option.some.inj hs
          exact fun comment => between ⟨rfl, comment⟩
        | cons first others => exact significant s hs

theorem Stage.semicolon_of_complete {stage : Stage} {t : Token} {statement : Statement}
    (h : stage.read t = .complete statement) : t.kind = .semicolon := by
  obtain ⟨kind, literal⟩ := t
  cases stage with
  | expression done =>
    simp only [Stage.read] at h
    split at h
    · cases h
    · split at h <;> cases h
  | _ => cases kind <;> cases h <;> rfl

namespace Reading

/-- No statement is complete without a semicolon. -/
theorem statements_after {r : Reading} {tokens : List Token} {stage : Stage}
    (within : (r.after tokens).status = .within stage)
    (unbroken : ∀ t ∈ tokens, t.kind ≠ .semicolon) :
    (r.after tokens).statements = r.statements := by
  induction tokens generalizing r with
  | nil => rfl
  | cons t rest ih =>
    obtain ⟨other, others⟩ := List.forall_mem_cons.mp unbroken
    obtain ⟨reached, inside⟩ := exists_within (not_stopped_of_after within)
    rw [after_cons] at within ⊢
    rw [ih within others]
    have further := not_stopped_of_after within
    by_cases comment : t.kind = .comment
    · rw [push_comment inside comment]
    · rw [push_within inside comment] at further ⊢
      cases read : reached.read t with
      | advance next => rfl
      | complete statement => exact absurd (Stage.semicolon_of_complete read) other
      | conclude statement => exact absurd (by simp [Stopped, make, read]) further
      | reject cause => rfl

theorem initial_moved (position : Nat) : (initial 0).moved position = initial position := rfl

end Reading

theorem Refuses.exists_before {tokens : List Token} {e : ReadError} (h : Refuses tokens e) :
    ∃ before rest stage, tokens = before ++ e.token :: rest ∧ before.length = e.position ∧
      Reaches before stage ∧ e.token.kind ≠ .comment ∧ stage.read e.token = .reject e.cause := by
  cases h with
  | intro reached comment read => exact ⟨_, _, _, rfl, rfl, reached, comment, read⟩

theorem take_of_closed {tokens before rest : List Token} {t : Token}
    (h : closed tokens = before ++ t :: rest) : tokens.take before.length = before := by
  have len : before.length ≤ tokens.length := by
    have whole := congrArg List.length h
    have more : (closed tokens).length ≤ tokens.length + 1 := by
      unfold closed
      split <;> simp
    simp only [List.length_append, List.length_cons] at whole
    omega
  have front : before <+: closed tokens := h ▸ List.prefix_append ..
  exact (List.prefix_iff_eq_take.mp
    (List.prefix_of_prefix_length_le front (prefix_closed tokens) len)).symm

/-- Where a list of tokens falls into what stands before a statement, what of the statement
stands before the token, and the token with what follows. -/
theorem beginsAt_of_closed {tokens front last rest : List Token} {t : Token}
    (whole : closed tokens = front ++ last ++ t :: rest)
    (separated : ∀ s, (uncommented front).getLast? = some s → s.kind = .semicolon)
    (unbroken : ∀ s ∈ last, s.kind ≠ .semicolon)
    (significant : ∀ s, last.head? = some s → s.kind ≠ .comment) (comment : t.kind ≠ .comment) :
    BeginsAt tokens (front ++ last).length front.length ∧ tokens.take front.length = front := by
  have taken := take_of_closed whole
  have front_eq : tokens.take front.length = front := by
    have := congrArg (List.take front.length) taken
    rwa [List.take_take, List.take_left, List.length_append,
      Nat.min_eq_left (Nat.le_add_right ..)] at this
  refine ⟨⟨by simp, by rwa [front_eq], by rwa [taken, List.drop_left], fun s found => ?_⟩, front_eq⟩
  obtain ⟨more, closing⟩ := prefix_closed tokens
  obtain ⟨inside, -⟩ := List.getElem?_eq_some_iff.mp found
  rw [← List.getElem?_append_left inside, closing, whole, List.append_assoc,
    List.getElem?_append_right (Nat.le_refl _), Nat.sub_self] at found
  cases last with
  | nil =>
    obtain rfl : t = s := Option.some.inj found
    exact comment
  | cons u others => exact significant s found

/-- **The statement that fails.** The error of a list of tokens stands in a statement that
begins behind the last semicolon before it. The tokens in front of that statement are a
program, whose statements are those that have been read; and the tokens from there on
have the error by themselves. -/
theorem exists_beginsAt {tokens : List Token} {e : ReadError} (h : readTokens tokens = .error e) :
    ∃ i statements, BeginsAt tokens e.position i ∧ readTokens (tokens.take i) = .ok statements ∧
      (Reading.ofTokens 0 tokens).statements = statements.reverse ∧
      readTokens (tokens.drop i) = .error ⟨e.cause, e.token, e.position - i⟩ := by
  obtain ⟨before, rest, stage, whole, place, reached, comment, read⟩ :=
    ((readTokens_eq_error_iff ..).mp h).exists_before
  obtain ⟨front, last, rfl, separated, unbroken, significant⟩ := exists_separated before
  obtain ⟨begins, front_eq⟩ :=
    beginsAt_of_closed whole separated unbroken significant comment
  have stopped := Reading.push_reject reached comment read
  rw [Reaches, Reading.after_append] at reached
  obtain ⟨first, within⟩ := Reading.exists_within (Reading.not_stopped_of_after reached)
  obtain ⟨statements, seam, complete⟩ := Reading.after_separated within separated
  refine ⟨front.length, statements, place ▸ begins, by rwa [front_eq], ?_, ?_⟩
  · rw [Reading.ofTokens, Reading.push_atEnd_after, whole, Reading.after_append, Reading.after_cons,
      stopped, Reading.after_of_stopped (by simp [Reading.Stopped]), Reading.after_append]
    show (((Reading.initial 0).after front).after last).statements = _
    rw [Reading.statements_after reached unbroken, seam]
    rfl
  · have reached' : Reaches last stage := by
      rw [seam, Reading.after_following, ← Reading.initial_moved, Reading.after_moved] at reached
      exact reached
    have refuses : Refuses (last ++ e.token :: rest) ⟨e.cause, e.token, last.length⟩ :=
      .intro reached' comment read
    have left : (closed tokens).drop front.length = last ++ e.token :: rest := by
      rw [whole, List.append_assoc, List.drop_left]
    rw [← readTokens_drop_closed, left, ← place, List.length_append, Nat.add_sub_cancel_left]
    exact (readTokens_eq_error_iff ..).mpr (refuses.of_prefix
      ((List.take_prefix ..).trans (prefix_closed _)))

end SelectLang
