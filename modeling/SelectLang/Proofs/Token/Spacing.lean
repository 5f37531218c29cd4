import SelectLang.Proofs.Token.Continuation
import SelectLang.Query.Reading

/-!
# White space between tokens

How much white space stands between two tokens, and which, makes no difference as
long as some stands where some stood before. White space can be added between any
two tokens. Only the line of a comment has to end before the next token.

* `Spaced gaps tokens text`: the text is the tokens with the gaps of white space
  before them.
* `MayReplace new old tokens`: the tokens stay apart with the new gaps in the place
  of the old ones.

Results:
* `LongestRun.unique`: a text is divided behind its longest run in one way.
* `Lexes.ended_respaced`: a lexeme ends before the tokens with other gaps, too.
* `Lexes.respaced`: a text is cut into the same tokens with other gaps.
* `exists_spaced`: a text without an error has gaps.
* `lex_respaced`: so it is read with other gaps as it is with its own.
-/
namespace SelectLang.Token

open SelectLang.Unicode

/-! ## Gaps -/

/-- The text is the tokens with the gaps of white space before them. -/
structure Spaced (gaps : List (List Char)) (tokens : List Token) (text : List Char) : Prop where
  length_eq : gaps.length = tokens.length
  blank : ∀ gap ∈ gaps, ∀ c ∈ gap, isWhiteSpace c
  text_eq : text = laidOut gaps tokens

/-- A new gap is empty only where the old one is, and behind a comment it begins
with the end of the line, unless it is empty. -/
structure MayReplace (new old : List (List Char)) (tokens : List Token) : Prop where
  kept : ∀ pair ∈ new.zip old, pair.1 = [] → pair.2 = []
  lined : ∀ pair ∈ tokens.zip new.tail, pair.1.kind = .comment → pair.2.head?.all isLineEnd

theorem LongestRun.takeWhile_eq {p : Char → Bool} {run rest : List Char}
    (h : LongestRun p run rest) : (run ++ rest).takeWhile p = run := by
  rw [List.takeWhile_append_of_pos h.inside]
  cases rest with
  | nil => simp
  | cons c rest => simp [h.outside c rfl]

theorem LongestRun.unique {p : Char → Bool} {run rest run' rest' : List Char}
    (h : LongestRun p run rest) (h' : LongestRun p run' rest') (same : run ++ rest = run' ++ rest') :
    run = run' ∧ rest = rest' := by
  have equal : run = run' := by rw [← h.takeWhile_eq, same, h'.takeWhile_eq]
  subst equal
  exact ⟨rfl, List.append_cancel_left same⟩

namespace Spaced

theorem exists_cons {gaps : List (List Char)} {t : Token} {tokens : List Token} {text : List Char}
    (h : Spaced gaps (t :: tokens) text) :
    ∃ gap others, gaps = gap :: others ∧ (∀ c ∈ gap, isWhiteSpace c) ∧
      text = gap ++ (t.literal.toList ++ laidOut others tokens) ∧
      Spaced others tokens (laidOut others tokens) := by
  obtain ⟨len, blank, rfl⟩ := h
  obtain ⟨gap, others, rfl⟩ := List.exists_cons_of_length_eq_add_one len
  obtain ⟨first, further⟩ := List.forall_mem_cons.mp blank
  refine ⟨gap, others, rfl, first, ?_, by simpa using len, further, rfl⟩
  rw [laidOut_cons, List.append_assoc]

end Spaced

theorem MayReplace.tail {gap gap' : List Char} {new old : List (List Char)} {t : Token}
    {tokens : List Token} (h : MayReplace (gap :: new) (gap' :: old) (t :: tokens)) :
    MayReplace new old tokens where
  kept pair mem := h.kept pair (by simp [mem])
  lined pair mem := by
    cases new with
    | nil => simp at mem
    | cons next new => exact h.lined pair (List.mem_cons_of_mem _ mem)

theorem MayReplace.line {gap : List Char} {new old : List (List Char)} {t : Token}
    {tokens : List Token} (h : MayReplace (gap :: new) old (t :: tokens))
    (comment : t.kind = .comment) : ∀ next ∈ new.head?, next.head?.all isLineEnd := by
  intro next mem
  obtain ⟨others, rfl⟩ := List.head?_eq_some_iff.mp mem
  exact h.lined (t, next) (by simp) comment

/-! ## Texts with other gaps -/

/-- Where no gap is, a text begins with a literal or is at its end, whatever gaps
follow. -/
theorem Lexes.head?_literal {text : List Char} {t : Token} {tokens : List Token}
    (h : Lexes text (t :: tokens)) (gaps others : List (List Char)) :
    (t.literal.toList ++ laidOut gaps tokens).head? =
      (t.literal.toList ++ laidOut others tokens).head? := by
  have none (gaps : List (List Char)) : laidOut gaps [] = [] := by simp [laidOut]
  cases h with
  | atEnd _ => rw [none, none]
  | error _ _ => rw [none, none]
  | @token gap text piece rest kind tokens _ first _ =>
    obtain ⟨c, run, rfl⟩ := List.exists_cons_of_ne_nil first.piece_ne_nil
    simp

/-- A lexeme that ends before the tokens with the old gaps ends before them with
the new ones. -/
theorem Lexes.ended_respaced {text : List Char} {tokens : List Token} (h : Lexes text tokens)
    {old new : List (List Char)} {other : List Char} (given : Spaced old tokens text)
    (changed : Spaced new tokens other) (kept : ∀ pair ∈ new.zip old, pair.1 = [] → pair.2 = [])
    {shape : Shape} (closed : shape ≠ .quoted false)
    (lined : shape = .comment → ∀ gap ∈ new.head?, gap.head?.all isLineEnd)
    (ended : ∀ c, text.head? = some c → shape.extend? c = none) :
    ∀ c, other.head? = some c → shape.extend? c = none := by
  obtain ⟨t, tokens, rfl⟩ := List.exists_cons_of_ne_nil h.ne_nil
  obtain ⟨gap, old, rfl, -, text_eq, -⟩ := given.exists_cons
  obtain ⟨newGap, new, rfl, blank, rfl, -⟩ := changed.exists_cons
  intro c hc
  cases newGap with
  | nil =>
    obtain rfl : gap = [] := kept ([], gap) (by simp) rfl
    rw [List.nil_append, h.head?_literal new old] at hc
    exact ended c (text_eq ▸ hc)
  | cons d run =>
    obtain rfl : d = c := Option.some.inj hc
    refine Shape.extend?_whiteSpace (blank d (by simp)) closed fun comment => ?_
    simpa using lined comment (d :: run) rfl

theorem Lexes.respaced {text : List Char} {tokens : List Token} (h : Lexes text tokens)
    (whole : tokens.getLast? = some Token.atEnd) {old new : List (List Char)} {other : List Char}
    (given : Spaced old tokens text) (changed : Spaced new tokens other)
    (may : MayReplace new old tokens) : Lexes other tokens := by
  induction h generalizing old new other with
  | atEnd _ =>
    obtain ⟨gap, others, rfl, blank, rfl, -⟩ := changed.exists_cons
    have none : Token.atEnd.literal.toList ++ laidOut others [] = [] := by
      simp [Token.atEnd, laidOut]
    rw [none]
    exact lexes_nil.gap blank
  | error _ _ => simp [Token.atEnd] at whole
  | @token gap text piece rest kind tokens blank first further ih =>
    rw [List.getLast?_cons_of_ne_nil further.ne_nil] at whole
    obtain ⟨gap', old, rfl, blank', layout, behind⟩ := given.exists_cons
    obtain ⟨newGap, new, rfl, newBlank, rfl, newBehind⟩ := changed.exists_cons
    rw [String.toList_ofList] at layout ⊢
    -- The old gap is the one that the lexeme stands behind.
    have start : LongestRun isWhiteSpace gap' (piece ++ laidOut old tokens) := by
      refine ⟨blank', fun c hc => blank.outside c ?_⟩
      obtain ⟨d, run, rfl⟩ := List.exists_cons_of_ne_nil first.piece_ne_nil
      rw [first.eq_append]
      exact hc
    obtain ⟨-, same⟩ := blank.unique start layout
    rw [first.eq_append] at same
    rw [List.append_cancel_left same] at further first ih
    obtain ⟨shape, spans, known⟩ := first.spans
    have closed : shape ≠ .quoted false := by
      rintro rfl
      cases known
    have comment (given : shape = .comment) : kind = .comment := by
      subst given
      cases known
      rfl
    have ended := further.ended_respaced behind newBehind may.tail.kept closed
      (fun given => may.line (comment given)) spans.ended
    exact (Shape.Spans.lexes ⟨spans.grown, ended⟩ known
      (ih whole behind newBehind may.tail)).gap newBlank

theorem exists_spaced {source : String} (whole : (lex source).getLast? = some Token.atEnd) :
    ∃ gaps, Spaced gaps (lex source) source.toList := by
  obtain ⟨gaps, rest, len, blank, text, last, final, leaves⟩ := (lexes_lex source).exists_gaps
  rw [whole] at final
  cases final
  cases leaves
  exact ⟨gaps, len, blank, by rw [text, List.append_nil]⟩

/-- **White space between tokens does not count.** A text without an error is its
tokens with gaps of white space before them. Every text of the same tokens with other
gaps is cut into these tokens, and is read as the first one is, as long as the tokens
stay apart: no gap is taken away altogether, and behind a comment the line ends. -/
theorem lex_respaced {source : String} (whole : (lex source).getLast? = some Token.atEnd) :
    (∃ old, Spaced old (lex source) source.toList) ∧
      ∀ (old new : List (List Char)) (other : String), Spaced old (lex source) source.toList →
        Spaced new (lex source) other.toList → MayReplace new old (lex source) →
        lex other = lex source ∧ parse other = parse source := by
  refine ⟨exists_spaced whole, fun old new other given changed may => ?_⟩
  have same : lex other = lex source :=
    ((lexes_lex source).respaced whole given changed may).lex_eq
  exact ⟨same, by rw [parse, parse, same]⟩

/-- A comment, two strings and two hyphens that only white space keeps apart. -/
def closeSource : String := "\x27a\x27 \x27b\x27-- c \n,- -1"

def closeGaps : List (List Char) := [[], [' '], [], ['\n'], [], [' '], [], []]

/-- The same tokens with white space before each of them. -/
def wideSource : String := "\t\x27a\x27\n\x27b\x27  -- c \r ,\u3000-\n-\t1 \n"

def wideGaps : List (List Char) :=
  [['\t'], ['\n'], [' ', ' '], ['\r', ' '], ['\u3000'], ['\n'], ['\t'], [' ', '\n']]

theorem lex_respaced_wideSource :
    (lex closeSource).getLast? = some Token.atEnd ∧
      Spaced closeGaps (lex closeSource) closeSource.toList ∧
      Spaced wideGaps (lex closeSource) wideSource.toList ∧
      MayReplace wideGaps closeGaps (lex closeSource) ∧
      lex wideSource = lex closeSource ∧ parse wideSource = parse closeSource := by
  have whole : (lex closeSource).getLast? = some Token.atEnd := by decide +kernel
  have blank : (closeGaps ++ wideGaps).all (·.all isWhiteSpace) := by decide +kernel
  simp only [List.all_append, Bool.and_eq_true, List.all_eq_true] at blank
  have given : Spaced closeGaps (lex closeSource) closeSource.toList :=
    ⟨by decide +kernel, blank.1, by decide +kernel⟩
  have changed : Spaced wideGaps (lex closeSource) wideSource.toList :=
    ⟨by decide +kernel, blank.2, by decide +kernel⟩
  have may : MayReplace wideGaps closeGaps (lex closeSource) :=
    ⟨by decide +kernel, by decide +kernel⟩
  exact ⟨whole, given, changed, may, (lex_respaced whole).2 _ _ _ given changed may⟩

end SelectLang.Token
