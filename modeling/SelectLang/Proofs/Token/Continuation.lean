import SelectLang.Proofs.Token.Seam
import SelectLang.Proofs.Token.Verbatim
import Mathlib.Data.List.Basic

/-!
# Texts that go on

What more text does to the tokens of a text. A text without an error keeps all of
them but the end if the text behind it begins on a new line. Behind an error of one
character nothing counts. A string that is not closed may still be closed: it is
cut again with what follows, and the tokens before it stay.

Results:
* `extend?_whiteSpace`: white space goes on with nothing but an open string, or a
  comment before the end of the line.
* `Spans.lexes`: a piece that a shape spans is cut off as a token of its kind.
* `lex_append_lineEnd`: a text on the lines behind another one.
* `Lexes.exists_front`: what stands before an error has the tokens before it.
* `Lexes.exists_broken`: and these stay, whatever follows.
* `lex_continued`: the three ways in which a text goes on.
-/
namespace SelectLang

open SelectLang.Unicode SelectLang.Token

theorem isWhiteSpace_of_isLineEnd {c : Char} (h : isLineEnd c) : isWhiteSpace c := by
  simp only [isLineEnd, Bool.or_eq_true, decide_eq_true_eq] at h
  rcases h with rfl | rfl <;> decide +kernel

namespace Shape

/-- White space is a part of no word and no numeral, and no sign of any other
lexeme. -/
theorem of_whiteSpace {c : Char} (h : isWhiteSpace c) :
    isWordPart c = false ∧ c.isDigit = false ∧ c ≠ '.' ∧ c ≠ '-' ∧ c ≠ Quoted.mark :=
  forall_isWhiteSpace (P := fun c => isWordPart c = false ∧ c.isDigit = false ∧ c ≠ '.' ∧
    c ≠ '-' ∧ c ≠ Quoted.mark) (by decide +kernel) h

/-- White space goes on with nothing but an open string, or a comment before the
end of the line. -/
theorem extend?_whiteSpace {shape : Shape} {c : Char} (blank : isWhiteSpace c)
    (closed : shape ≠ .quoted false) (line : shape = .comment → isLineEnd c) :
    shape.extend? c = none := by
  obtain ⟨word, digit, point, hyphen, mark⟩ := of_whiteSpace blank
  cases shape with
  | hyphen => simp [extend?, hyphen]
  | comment => simp [extend?, line rfl]
  | word => simp [extend?, word]
  | numeral => simp [extend?, digit, point]
  | quoted closed' =>
    rw [extend?_quoted mark]
    cases closed' with
    | false => exact absurd rfl closed
    | true => rfl
  | symbol => rfl
  | stray => rfl

theorem Spans.lexes {shape : Shape} {piece rest : List Char} {kind : Kind} {tokens : List Token}
    (h : shape.Spans piece rest) (known : shape.kind piece = .ok kind)
    (further : Lexes rest tokens) :
    Lexes (piece ++ rest) (⟨kind, String.ofList piece⟩ :: tokens) := by
  obtain ⟨others, lexes⟩ := exists_lexes (piece ++ rest)
  have cut := (lexes.finish_after 0 []).1
  have left : Scan.leave ⟨.inside shape piece.reverse, 0, []⟩ =
      Scan.between (0 + (String.ofList piece).utf8ByteSize) [⟨⟨kind, String.ofList piece⟩, 0⟩] := by
    simp [Scan.leave, known]
  rw [Scan.finish_after_spans h, left, (further.finish_after _ _).1] at cut
  obtain rfl : others = ⟨kind, String.ofList piece⟩ :: tokens := cut.symm
  exact lexes

end Shape

namespace Token

theorem Lexes.gap {gap text : List Char} {tokens : List Token} (blank : ∀ c ∈ gap, isWhiteSpace c)
    (h : Lexes text tokens) : Lexes (gap ++ text) tokens := by
  induction gap with
  | nil => exact h
  | cons c rest ih =>
    obtain ⟨first, others⟩ := List.forall_mem_cons.mp blank
    exact (ih others).blank first

/-! ## A text on further lines -/

theorem apart_lineEnd {source : String} (whole : (lex source).getLast? = some Token.atEnd)
    {c : Char} (line : isLineEnd c) (rest : List Char) : Apart source.toList (c :: rest) := by
  intro d hd shape pending inside
  obtain rfl : c = d := Option.some.inj hd
  refine Shape.extend?_whiteSpace (isWhiteSpace_of_isLineEnd line) ?_ fun _ => line
  rintro rfl
  exact not_open whole pending inside

/-- A text on the lines behind another one is cut into tokens by itself. -/
theorem lex_append_lineEnd {front : String} (whole : (lex front).getLast? = some Token.atEnd)
    {c : Char} (line : isLineEnd c) (behind : String) :
    lex (front ++ String.singleton c ++ behind) = (lex front).dropLast ++ lex behind := by
  have text : (String.singleton c ++ behind).toList = c :: behind.toList := by simp
  have apart : Apart front.toList (String.singleton c ++ behind).toList :=
    text ▸ apart_lineEnd whole line _
  have same : lex (String.singleton c ++ behind) = lex behind := by
    apply Lexes.lex_eq
    rw [text]
    exact (lexes_lex behind).blank (isWhiteSpace_of_isLineEnd line)
  rw [String.append_assoc, lex_append whole apart, same]

/-! ## A text behind an error -/

/-- What stands before an error has the tokens before it, whatever follows that begins as
the error does; and a scan comes to the error with the bytes in front counted. -/
theorem Lexes.exists_front {text : List Char} {tokens : List Token} {t : Token}
    (h : Lexes text tokens) (last : tokens.getLast? = some t) (error : t.kind = .error) :
    ∃ front back piece, text = front ++ back ∧ t = ⟨.error, String.ofList piece⟩ ∧
      Broken back piece ∧
      (∀ more others, (∀ c, more.head? = some c → back.head? = some c) → Lexes more others →
        Lexes (front ++ more) (tokens.dropLast ++ others)) ∧
      ∀ n older, ∃ lexemes, ((Scan.between n older).after text).finish =
        ((Scan.between (n + (String.ofList front).utf8ByteSize) lexemes).after back).finish := by
  induction h with
  | atEnd _ =>
    cases last
    cases error
  | @error gap text piece blank broken =>
    cases last
    refine ⟨gap, text, piece, rfl, rfl, broken, fun more others _ lexes => lexes.gap blank.inside,
      fun n older => ⟨older, ?_⟩⟩
    rw [Scan.after_append, Scan.after_blank blank.inside]
  | @token gap text piece rest kind tokens blank first further ih =>
    rw [List.getLast?_cons_of_ne_nil further.ne_nil] at last
    obtain ⟨front, back, fault, rfl, rfl, broken, go, scan⟩ := ih last
    refine ⟨gap ++ piece ++ front, back, fault, by simp [first.eq_append], rfl, broken,
      fun more others begins lexes => ?_, fun n older => ?_⟩
    · obtain ⟨shape, spans, known⟩ := first.spans
      -- Behind the lexeme stands what stood there before, or nothing.
      have ended : ∀ c, (front ++ more).head? = some c → shape.extend? c = none := by
        intro c hc
        refine spans.ended c ?_
        cases front with
        | nil => exact begins c hc
        | cons d front => exact hc
      have cut := Shape.Spans.lexes ⟨spans.grown, ended⟩ known (go more others begins lexes)
      rw [List.dropLast_cons_of_ne_nil further.ne_nil]
      simpa using cut.gap blank.inside
    · obtain ⟨lexemes, reached⟩ := scan (n + (String.ofList gap).utf8ByteSize +
        (String.ofList piece).utf8ByteSize) (⟨⟨kind, String.ofList piece⟩, _⟩ :: older)
      refine ⟨lexemes, ?_⟩
      rw [Scan.after_append, Scan.after_blank blank.inside, first.finish_after, reached]
      simp [String.ofList_append, Nat.add_assoc]

theorem Lexes.exists_broken {text : List Char} {tokens : List Token} {t : Token}
    (h : Lexes text tokens) (last : tokens.getLast? = some t) (error : t.kind = .error) :
    ∃ back piece, t = ⟨.error, String.ofList piece⟩ ∧ Broken back piece ∧
      ∀ more others, Lexes (back ++ more) others →
        Lexes (text ++ more) (tokens.dropLast ++ others) := by
  obtain ⟨front, back, piece, rfl, same, broken, go, -⟩ := h.exists_front last error
  refine ⟨back, piece, same, broken, fun more others lexes => ?_⟩
  rw [List.append_assoc]
  refine go _ _ (fun c hc => ?_) lexes
  cases broken <;> exact hc

/-- A stray character ends the text, whatever follows it. -/
theorem Broken.lexes_append {text piece : List Char} (h : Broken text piece)
    (mark : piece.head? ≠ some Quoted.mark) (more : List Char) :
    Lexes (text ++ more) [⟨.error, String.ofList piece⟩] := by
  cases h with
  | unterminated _ => exact absurd rfl mark
  | @stray c rest ne blank none =>
    have stray := opening?_stray ne blank none
    have broken : Broken (c :: (rest ++ more)) [c] :=
      .stray ne blank fun _ _ _ => not_first_of_stray stray
    have lexes : Lexes ([] ++ c :: (rest ++ more)) [⟨.error, String.ofList [c]⟩] :=
      .error broken.no_gap broken
    exact lexes

theorem Broken.eq_piece {text piece : List Char} (h : Broken text piece)
    (mark : piece.head? = some Quoted.mark) : text = piece := by
  obtain ⟨rest, rfl, whole⟩ := h.exists_rest
  rw [whole mark, List.append_nil]

/-- **A text that goes on.** Behind a text without an error, a text on a new line is
cut into tokens by itself. Behind an error that is no open string, nothing counts. An
open string is cut again with what follows, and the tokens before it stay. -/
theorem lex_continued (front behind : String) :
    ((lex front).getLast? = some Token.atEnd → ∀ c ∈ ['\n', '\r'],
      lex (front ++ String.singleton c ++ behind) = (lex front).dropLast ++ lex behind) ∧
    ∀ t, (lex front).getLast? = some t → t.kind = .error →
      (t.literal.toList.head? ≠ some Quoted.mark → lex (front ++ behind) = lex front) ∧
      (t.literal.toList.head? = some Quoted.mark →
        lex (front ++ behind) = (lex front).dropLast ++ lex (t.literal ++ behind)) := by
  refine ⟨fun whole c line => ?_, fun t last error => ?_⟩
  · exact lex_append_lineEnd whole (by simpa [isLineEnd] using line) behind
  obtain ⟨back, piece, rfl, broken, go⟩ := (lexes_lex front).exists_broken last error
  refine ⟨fun other => ?_, fun mark => ?_⟩
  · rw [String.toList_ofList] at other
    have cut := go _ _ (broken.lexes_append other behind.toList)
    rw [← String.toList_append] at cut
    rw [cut.lex_eq]
    exact List.dropLast_append_getLast? _ last
  · rw [String.toList_ofList] at mark
    obtain rfl := broken.eq_piece mark
    have lexes := lexes_lex (String.ofList back ++ behind)
    rw [String.toList_append, String.toList_ofList] at lexes
    have cut := go _ _ lexes
    rw [← String.toList_append] at cut
    exact cut.lex_eq

/-- A text that ends in a comment. -/
def commentedFront : String := "1. -- it\x27s"

/-- A text with an open string behind a closed one. -/
def openFront : String := "a\x27b\x27 \x27c\x27\x27"

theorem lex_continued_open :
    (lex commentedFront).getLast? = some Token.atEnd ∧
      lex (commentedFront ++ String.singleton '\r' ++ openFront) =
        (lex commentedFront).dropLast ++ lex openFront ∧
      (lex "1.2.").getLast? = some ⟨.error, "."⟩ ∧ lex ("1.2." ++ openFront) = lex "1.2." ∧
      (lex openFront).getLast? = some ⟨.error, "\x27c\x27\x27"⟩ ∧
      lex (openFront ++ commentedFront) =
        (lex openFront).dropLast ++ lex ("\x27c\x27\x27" ++ commentedFront) := by
  have whole : (lex commentedFront).getLast? = some Token.atEnd := by decide +kernel
  have stray : (lex "1.2.").getLast? = some ⟨.error, "."⟩ := by decide +kernel
  have unclosed : (lex openFront).getLast? = some ⟨.error, "\x27c\x27\x27"⟩ := by decide +kernel
  refine ⟨whole, ?_, stray, ?_, unclosed, ?_⟩
  · exact (lex_continued commentedFront openFront).1 whole '\r' (by decide)
  · exact ((lex_continued "1.2." openFront).2 _ stray rfl).1 (by decide)
  · exact ((lex_continued openFront commentedFront).2 _ unclosed rfl).2 (by decide)

end Token

end SelectLang
