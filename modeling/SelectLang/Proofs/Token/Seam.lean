import SelectLang.Proofs.Token.Written

/-!
# Where two texts meet

A scan reads on from the end of one text into the next. Unless the lexeme at the
end of the first goes on with the first character of the second, the tokens of
both together are those of the one and then those of the other.

* `Apart front behind`: the lexeme that the scan of the front is inside of at its
  end does not go on into the text behind.

Results:
* `exists_between`: at the end of a text without an error the scan stands between
  lexemes, with all tokens but the end.
* `not_open`: no string is open there.
* `lex_append`: so texts that are apart are cut into tokens one by one.
* `apart_mark`: a text is apart from a quote unless it ends in a comment or in a
  quote.
* `lex_quoted`: a text with a quoted value in it.
-/
namespace SelectLang

open SelectLang.Unicode SelectLang.Token

namespace Shape

theorem opening?_ne_closed (c : Char) : opening? c ≠ some (.quoted true) := by
  unfold opening?
  repeat' split
  all_goals simp

theorem extend?_closed {shape : Shape} {c : Char} (h : shape.extend? c = some (.quoted true)) :
    c = Quoted.mark := by
  cases shape with
  | quoted closed =>
    apply Classical.byContradiction
    intro other
    rw [extend?_quoted other] at h
    cases closed <;> cases h
  | numeral point =>
    simp only [extend?] at h
    repeat' split at h
    all_goals cases h
  | symbol => cases h
  | stray => cases h
  | _ => simp [extend?] at h

end Shape

namespace Scan

theorem leave_of_finish {s : Scan} (h : s.finish.state = .between) : ∃ n older,
    s.leave = between n older ∧ s.finish.tokens = (between n older).tokens ++ [Token.atEnd] := by
  unfold finish at h ⊢
  generalize s.leave = left at h ⊢
  obtain ⟨state, n, older⟩ := left
  cases state with
  | between => exact ⟨n, older, rfl, by simp [Scan.tokens]⟩
  | inside shape pending => cases h
  | halted fault => cases h

theorem enter_ne_closed {s : Scan} (outside : ∀ shape pending, s.state ≠ .inside shape pending)
    (c : Char) (pending : List Char) : (s.enter c).state ≠ .inside (.quoted true) pending := by
  unfold enter
  split
  · split
    · next shape opened =>
      intro same
      obtain ⟨rfl, -⟩ := State.inside.inj same
      exact Shape.opening?_ne_closed c opened
    · exact outside _ _
  · exact outside _ _

theorem eq_mark_of_closed {s : Scan} {c : Char} {pending : List Char}
    (h : (s.push c).state = .inside (.quoted true) pending) : c = Quoted.mark := by
  unfold push at h
  split at h
  · split at h
    · next longer extended =>
      obtain ⟨rfl, -⟩ := State.inside.inj h
      exact Shape.extend?_closed extended
    · exact absurd h (enter_ne_closed s.leave_outside c pending)
  · next outside => exact absurd h (enter_ne_closed outside c pending)

end Scan

namespace Token

open Scan

theorem Lexes.finish_between {text : List Char} {tokens : List Token} (h : Lexes text tokens)
    (whole : tokens.getLast? = some Token.atEnd) (n : Nat) (older : List Lexeme) :
    ((between n older).after text).finish.state = .between := by
  induction h generalizing n older with
  | atEnd gap =>
    have e := after_blank gap.inside n older
    rw [e]
    rfl
  | error gap broken => simp [Token.atEnd] at whole
  | token gap first further ih =>
    have e := after_blank gap.inside n older
    rw [List.getLast?_cons_of_ne_nil further.ne_nil] at whole
    rw [after_append, e, first.finish_after]
    exact ih whole _ _

/-- The scan of a text without an error stands between lexemes at the end of it,
with all tokens but the end. -/
theorem exists_between {source : String} (whole : (lex source).getLast? = some Token.atEnd) :
    ∃ n older, (Scan.initial.after source.toList).leave = between n older ∧
      lex source = (between n older).tokens ++ [Token.atEnd] :=
  leave_of_finish ((lexes_lex source).finish_between whole 0 [])

theorem not_open {source : String} (whole : (lex source).getLast? = some Token.atEnd)
    (pending : List Char) :
    (Scan.initial.after source.toList).state ≠ .inside (.quoted false) pending := by
  intro inside
  obtain ⟨n, older, left, -⟩ := exists_between whole
  simp [leave, inside, Shape.kind] at left

/-- The lexeme at the end of the text in front does not go on into the one
behind. -/
def Apart (front behind : List Char) : Prop :=
  ∀ c, behind.head? = some c → ∀ shape pending,
    (Scan.initial.after front).state = .inside shape pending → shape.extend? c = none

/-- Two texts that are apart are cut into tokens one by one. -/
theorem lex_append {front behind : String} (whole : (lex front).getLast? = some Token.atEnd)
    (apart : Apart front.toList behind.toList) :
    lex (front ++ behind) = (lex front).dropLast ++ lex behind := by
  obtain ⟨n, older, left, tokens⟩ := exists_between whole
  have seam : ((Scan.initial.after front.toList).after behind.toList).finish =
      ((between n older).after behind.toList).finish := by
    rw [← left]
    by_cases inside : ∃ shape pending, (Scan.initial.after front.toList).state =
        .inside shape pending
    · obtain ⟨shape, pending, inside⟩ := inside
      exact finish_after_leave inside fun c hc => apart c hc shape pending inside
    · rw [leave_of_outside fun shape pending h => inside ⟨shape, pending, h⟩]
  calc lex (front ++ behind)
      = ((Scan.initial.after (front ++ behind).toList).finish).tokens := rfl
    _ = ((between n older).after behind.toList).finish.tokens := by
      rw [String.toList_append, after_append, seam]
    _ = (between n older).tokens ++ lex behind :=
      ((lexes_lex behind).finish_after n older).1
    _ = (lex front).dropLast ++ lex behind := by
      rw [tokens, List.dropLast_concat]

/-! ## Quoted values -/

/-- What a text ends with, when it is inside of a lexeme there. -/
theorem getLast?_dropLast_lex {source : String} {shape : Shape} {pending : List Char} {kind : Kind}
    (inside : (Scan.initial.after source.toList).state = .inside shape pending)
    (known : shape.kind pending.reverse = .ok kind) :
    (lex source).dropLast.getLast? = some ⟨kind, String.ofList pending.reverse⟩ := by
  have tokens : lex source = (Scan.initial.after source.toList).leave.tokens ++ [Token.atEnd] := by
    show Scan.tokens (Scan.finish _) = _
    simp [Scan.finish, leave, inside, known, Scan.tokens]
  rw [tokens, List.dropLast_concat]
  simp [leave, inside, known, Scan.tokens]

/-- A text is apart from a quote unless it ends in a comment or in a quote. -/
theorem apart_mark {source : String} (whole : (lex source).getLast? = some Token.atEnd)
    (comment : ∀ t, (lex source).dropLast.getLast? = some t → t.kind ≠ .comment)
    (mark : source.toList.getLast? ≠ some Quoted.mark) (rest : List Char) :
    Apart source.toList (Quoted.mark :: rest) := by
  intro c hc shape pending inside
  obtain rfl : Quoted.mark = c := Option.some.inj hc
  cases shape with
  | comment => exact absurd rfl (comment _ (getLast?_dropLast_lex inside rfl))
  | quoted closed =>
    cases closed with
    | false => exact absurd inside (not_open whole pending)
    | true =>
      rcases source.toList.eq_nil_or_concat with empty | ⟨front, c, text⟩
      · rw [empty] at inside
        cases inside
      · rw [List.concat_eq_append] at text
        rw [text, after_append, after_cons, after_nil] at inside
        rw [text, eq_mark_of_closed inside] at mark
        simp at mark
  | numeral point => cases point <;> rfl
  | word => decide +kernel
  | hyphen => rfl
  | symbol => rfl
  | stray => rfl

/-- **A quoted value in a text** is one token, whatever stands in it, and what is
around it is cut into tokens as if it stood there alone. -/
theorem lex_quoted {front behind : String} (whole : (lex front).getLast? = some Token.atEnd)
    (comment : ∀ t, (lex front).dropLast.getLast? = some t → t.kind ≠ .comment)
    (mark : front.toList.getLast? ≠ some Quoted.mark)
    (follow : behind.toList.head? ≠ some Quoted.mark) (value : List Char) :
    lex (front ++ String.ofList (Quoted.quote value) ++ behind) =
      (lex front).dropLast ++ ⟨.stringLiteral, String.ofList (Quoted.quote value)⟩ :: lex behind := by
  have quoted : lex (String.ofList (Quoted.quote value) ++ behind) =
      ⟨.stringLiteral, String.ofList (Quoted.quote value)⟩ :: lex behind := by
    have first : First (Quoted.quote value ++ behind.toList) .stringLiteral (Quoted.quote value)
        behind.toList := .string ⟨_, quotedBody_double value, rfl⟩ follow
    apply Lexes.lex_eq
    simpa using first.lexes (lexes_lex behind)
  have apart : Apart front.toList (String.ofList (Quoted.quote value) ++ behind).toList := by
    rw [String.toList_append, String.toList_ofList]
    exact apart_mark whole comment mark _
  rw [String.append_assoc, lex_append whole apart, quoted]

end Token

end SelectLang
