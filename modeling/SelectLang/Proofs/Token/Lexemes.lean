import SelectLang.Token.Grammar
import Mathlib.Data.List.TakeWhile
import Mathlib.Data.Nat.Find

/-!
# Lexemes and shapes

The grammar cuts a lexeme off a text as a whole; the scan builds one from its
first character on. Here the two are brought together: the shape that a scan
gives to a piece of text is the one of the lexeme.

* `Shape.grown? shape text`: the shape after all of `text`, if all of it goes on
  with the lexeme.
* `Shape.Spans shape piece rest`: a scan that begins a lexeme with `piece` gives
  it the shape, and `rest` does not go on with it.
* `faultOf piece`: why the error that the piece is stops a scan.

Results:
* `First.spans`: the first lexeme of a text is spanned by a shape of its kind.
* `Broken.spans`: the error of a text is spanned by a shape that has no kind.
* `faultOf_ne`: and never for want of a symbol.
-/
namespace SelectLang

open SelectLang.Unicode SelectLang.Token

namespace Shape

/-! ## Openings -/

theorem isLetter_ne {c : Char} (h : isLetter c) : c ≠ '-' ∧ c ≠ Quoted.mark := by
  constructor <;> rintro rfl <;> revert h <;> decide +kernel

theorem opening?_letter {c : Char} (h : isLetter c) : opening? c = some .word := by
  obtain ⟨h1, h2⟩ := isLetter_ne h
  simp [opening?, h1, h2, h]

theorem opening?_digit {c : Char} (h : c.isDigit) : opening? c = some (.numeral false) := by
  have table : ∀ n < 58, 48 ≤ n → opening? (Char.ofNat n) = some (.numeral false) := by
    decide +kernel
  have := isDigit_bounds h
  have := table c.toNat (by omega) (by omega)
  rwa [Char.ofNat_toNat] at this

theorem opening?_whiteSpace {c : Char} (h : isWhiteSpace c) : opening? c = none :=
  forall_isWhiteSpace (P := fun c => opening? c = none) (by decide +kernel) h

/-- A symbol other than the hyphen is of one character, which begins nothing
else. -/
theorem opening?_symbol {c : Char} {kind : Kind} (h : (String.singleton c, kind) ∈ symbols)
    (hyphen : c ≠ '-') : opening? c = some .symbol := by
  have table : ∀ entry ∈ symbols,
      entry.1.toList.all fun d => d = '-' || opening? d = some .symbol := by decide +kernel
  have entry := List.all_eq_true.mp (table _ h) c (by simp)
  simpa [hyphen] using entry

theorem kind_symbol {c : Char} {kind : Kind} (h : (String.singleton c, kind) ∈ symbols) :
    Shape.symbol.kind [c] = .ok kind ∧ Shape.hyphen.kind [c] = .ok kind := by
  have table : ∀ entry ∈ symbols, Shape.symbol.kind entry.1.toList = .ok entry.2 ∧
      Shape.hyphen.kind entry.1.toList = .ok entry.2 := by decide +kernel
  simpa using table _ h

theorem exists_symbol {c : Char} (h : symbols.isStart c) :
    ∃ kind, (String.singleton c, kind) ∈ symbols := by
  have short : ∀ entry ∈ symbols, entry.1.toList.tail = [] := by decide
  obtain ⟨entry, mem, rest, e⟩ := (SymbolTable.isStart_iff symbols c).mp h
  have := short entry mem
  rw [e] at this
  refine ⟨entry.2, ?_⟩
  rw [show String.singleton c = entry.1 by
    rw [← String.toList_inj, e, show rest = [] from this]; simp]
  exact mem

/-! ## Growth -/

/-- The shape after all of a text, if all of it goes on with the lexeme. -/
def grown? (shape : Shape) : List Char → Option Shape
  | [] => some shape
  | c :: rest => (shape.extend? c).bind fun longer => longer.grown? rest

theorem grown?_cons {shape longer : Shape} {c : Char} (h : shape.extend? c = some longer)
    (rest : List Char) : shape.grown? (c :: rest) = longer.grown? rest := by
  simp [grown?, h]

theorem grown?_append {shape longer : Shape} {a : List Char} (h : shape.grown? a = some longer)
    (b : List Char) : shape.grown? (a ++ b) = longer.grown? b := by
  induction a generalizing shape with
  | nil => cases h; rfl
  | cons c rest ih =>
    obtain ⟨next, h1, h2⟩ := Option.bind_eq_some_iff.mp h
    rw [List.cons_append, grown?_cons h1, ih h2]

/-- A shape that goes on through a class of characters goes on through a run of
them. -/
theorem grown?_run {shape : Shape} {p : Char → Bool}
    (step : ∀ c, p c → shape.extend? c = some shape) {run : List Char} (h : ∀ c ∈ run, p c) :
    shape.grown? run = some shape := by
  induction run with
  | nil => rfl
  | cons c rest ih =>
    rw [grown?_cons (step c (h c (List.mem_cons_self ..)))]
    exact ih fun d hd => h d (List.mem_cons_of_mem _ hd)

theorem extend?_quoted_mark (closed : Bool) :
    (Shape.quoted closed).extend? Quoted.mark = some (.quoted !closed) := by
  simp [extend?]

theorem extend?_quoted {c : Char} (h : c ≠ Quoted.mark) (closed : Bool) :
    (Shape.quoted closed).extend? c = if closed then none else some (.quoted false) := by
  simp [extend?, h]

theorem grown?_body {body : List Char} (h : QuotedBody body) :
    (Shape.quoted false).grown? body = some (.quoted false) := by
  induction h with
  | nil => rfl
  | char ne _ ih => rw [grown?_cons (by rw [extend?_quoted ne]; rfl), ih]
  | pair _ ih =>
    rw [grown?_cons (extend?_quoted_mark _), grown?_cons (extend?_quoted_mark _)]
    exact ih

/-- The text has a body and a closing quote in front. -/
def Closes (text : List Char) : Prop :=
  ∃ body rest, text = body ++ Quoted.mark :: rest ∧ QuotedBody body ∧ rest.head? ≠ some Quoted.mark

theorem closes_append {a b : List Char} (h : QuotedBody a) (closes : Closes b) :
    Closes (a ++ b) := by
  obtain ⟨body, rest, rfl, inner, last⟩ := closes
  refine ⟨a ++ body, rest, by simp, ?_, last⟩
  induction h with
  | nil => exact inner
  | char ne _ ih => exact .char ne ih
  | pair _ ih => exact .pair ih

/-- From an open quote on, a text closes the string or leaves it open to the
end. -/
theorem closes_or_open : (text : List Char) →
    Closes text ∨ (Shape.quoted false).grown? text = some (.quoted false)
  | [] => .inr rfl
  | c :: rest => by
    have further {a b : List Char} (h : QuotedBody a)
        (ih : Closes b ∨ (Shape.quoted false).grown? b = some (.quoted false)) :
        Closes (a ++ b) ∨ (Shape.quoted false).grown? (a ++ b) = some (.quoted false) := by
      rw [grown?_append (grown?_body h)]
      exact ih.imp_left (closes_append h)
    by_cases hc : c = Quoted.mark
    · subst hc
      match rest with
      | [] => exact .inl ⟨[], [], rfl, .nil, by simp⟩
      | d :: rest =>
        by_cases hd : d = Quoted.mark
        · subst hd
          exact further (.pair .nil) (closes_or_open rest)
        · exact .inl ⟨[], d :: rest, rfl, .nil, by simpa using hd⟩
    · exact further (.char hc .nil) (closes_or_open rest)

theorem grown?_digits (point : Bool) {digits : List Char} (h : ∀ c ∈ digits, c.isDigit) :
    (Shape.numeral point).grown? digits = some (.numeral point) :=
  grown?_run (p := Char.isDigit) (fun c hc => by simp [extend?, hc]) h

/-- Digits with or without a point make a numeral, and a character that goes on
with them makes a longer one. -/
theorem grown?_numeral {c : Char} {run : List Char} (h : IsNumeral (c :: run)) :
    ∃ point, c.isDigit ∧ (Shape.numeral false).grown? run = some (.numeral point) ∧
      ∀ d, (Shape.numeral point).extend? d ≠ none → IsNumeral (c :: run ++ [d]) := by
  obtain ⟨whole, fraction, ne, digits, decimals, e⟩ := h
  obtain ⟨first, more, rfl⟩ := List.exists_cons_of_ne_nil ne
  have first_digit := digits first (List.mem_cons_self ..)
  have grown := grown?_digits false fun d hd => digits d (List.mem_cons_of_mem _ hd)
  rcases e with e | e <;> obtain ⟨rfl, rfl⟩ := List.cons.inj e
  · refine ⟨false, first_digit, grown, fun d hd => ?_⟩
    by_cases digit : d.isDigit
    · refine ⟨c :: run ++ [d], [], by simp, fun x hx => ?_, by simp, .inl rfl⟩
      rcases List.mem_append.mp hx with hx | hx
      · exact digits x hx
      · rwa [List.mem_singleton.mp hx]
    · have point : d = '.' := by
        refine Classical.byContradiction fun other => hd ?_
        simp [extend?, digit, other]
      subst point
      exact ⟨c :: run, [], by simp, digits, by simp, .inr rfl⟩
  · refine ⟨true, first_digit, ?_, fun d hd => ?_⟩
    · show (Shape.numeral false).grown? (more ++ '.' :: fraction) = some (.numeral true)
      have next : (Shape.numeral false).extend? '.' = some (.numeral true) := by simp [extend?]
      rw [grown?_append grown, grown?_cons next]
      exact grown?_digits true decimals
    · have digit : d.isDigit := by
        refine Classical.byContradiction fun other => hd ?_
        simp [extend?, other]
      refine ⟨c :: more, fraction ++ [d], by simp, digits, fun x hx => ?_, .inr (by simp)⟩
      rcases List.mem_append.mp hx with hx | hx
      · exact decimals x hx
      · rwa [List.mem_singleton.mp hx]

/-! ## Lexemes of a shape -/

/-- A scan that begins a lexeme with the piece gives it the shape, and what
follows does not go on with it. -/
structure Spans (shape : Shape) (piece rest : List Char) : Prop where
  grown : ∃ c run first, piece = c :: run ∧ opening? c = some first ∧ first.grown? run = some shape
  ended : ∀ c, rest.head? = some c → shape.extend? c = none

end Shape

namespace Token

open Shape

theorem longestRun_takeWhile (p : Char → Bool) (text : List Char) :
    LongestRun p (text.takeWhile p) (text.dropWhile p) where
  inside c hc := List.mem_takeWhile_imp hc
  outside c hc := by simpa [hc] using List.head?_dropWhile_not p text

theorem spans_comment {run rest : List Char}
    (longest : LongestRun (fun c => !isLineEnd c) run rest) :
    Shape.comment.Spans ('-' :: '-' :: run) rest := by
  have step (c : Char) (hc : !isLineEnd c) : Shape.comment.extend? c = some .comment := by
    simpa [extend?] using hc
  refine ⟨⟨'-', '-' :: run, .hyphen, rfl, rfl, ?_⟩, fun c hc => ?_⟩
  · rw [grown?_cons rfl]
    exact grown?_run step longest.inside
  · simpa [extend?] using longest.outside c hc

theorem spans_string {body rest : List Char} (inner : QuotedBody body)
    (last : rest.head? ≠ some Quoted.mark) :
    (Shape.quoted true).Spans (Quoted.mark :: (body ++ [Quoted.mark])) rest := by
  refine ⟨⟨Quoted.mark, body ++ [Quoted.mark], .quoted false, rfl, rfl, ?_⟩, fun c hc => ?_⟩
  · rw [grown?_append (grown?_body inner), grown?_cons (extend?_quoted_mark _)]
    rfl
  · exact extend?_quoted (fun e => last (e ▸ hc)) true

theorem spans_word {c : Char} {run rest : List Char} (letter : isLetter c)
    (longest : LongestRun isWordPart run rest) : Shape.word.Spans (c :: run) rest := by
  have step (d : Char) (hd : isWordPart d) : Shape.word.extend? d = some .word := by
    simp [extend?, hd]
  refine ⟨⟨c, run, .word, rfl, opening?_letter letter, grown?_run step longest.inside⟩, ?_⟩
  intro d hd
  simp [extend?, longest.outside d hd]

theorem spans_numeral {piece rest : List Char} (shape : IsNumeral piece)
    (longest : ∀ longer shorter, longer ++ shorter = piece ++ rest → IsNumeral longer →
      longer.length ≤ piece.length) : ∃ point, (Shape.numeral point).Spans piece rest := by
  obtain ⟨c, run, rfl⟩ := List.exists_cons_of_ne_nil shape.ne_nil
  obtain ⟨point, digit, grown, further⟩ := grown?_numeral shape
  refine ⟨point, ⟨c, run, _, rfl, opening?_digit digit, grown⟩, fun d hd => ?_⟩
  obtain ⟨after, rfl⟩ := List.head?_eq_some_iff.mp hd
  refine Classical.byContradiction fun goes => ?_
  have := longest (c :: run ++ [d]) after (by simp) (further d goes)
  simp only [List.length_append, List.length_cons, List.length_nil] at this
  omega

theorem spans_symbol {c : Char} {kind : Kind} {rest : List Char}
    (mem : (String.singleton c, kind) ∈ symbols) (single : ¬ (c = '-' ∧ rest.head? = some '-')) :
    ∃ shape : Shape, shape.Spans [c] rest ∧ shape.kind [c] = .ok kind := by
  by_cases hc : c = '-'
  · subst hc
    refine ⟨.hyphen, ⟨⟨_, [], .hyphen, rfl, rfl, rfl⟩, fun d hd => ?_⟩, (kind_symbol mem).2⟩
    have : d ≠ '-' := fun e => single ⟨rfl, e ▸ hd⟩
    simp [extend?, this]
  · exact ⟨.symbol, ⟨⟨c, [], .symbol, rfl, opening?_symbol mem hc, rfl⟩, fun _ _ => rfl⟩,
      (kind_symbol mem).1⟩

theorem First.spans {text piece rest : List Char} {kind : Kind} (h : First text kind piece rest) :
    ∃ shape : Shape, shape.Spans piece rest ∧ shape.kind piece = .ok kind := by
  cases h with
  | comment longest => exact ⟨.comment, spans_comment longest, rfl⟩
  | string shape last =>
    obtain ⟨body, inner, rfl⟩ := shape
    exact ⟨.quoted true, spans_string inner last, rfl⟩
  | word letter longest => exact ⟨.word, spans_word letter longest, rfl⟩
  | numeral shape longest =>
    obtain ⟨point, spans⟩ := spans_numeral shape longest
    exact ⟨.numeral point, spans, rfl⟩
  | symbol mem single => exact spans_symbol mem single

/-! ## Texts that begin with a lexeme -/

/-- Of the parts in front of a text that have a property there is a longest. -/
theorem exists_longest {P : List Char → Prop} {piece : List Char} (h : P piece)
    (rest : List Char) :
    ∃ longest after, longest ++ after = piece ++ rest ∧ P longest ∧
      ∀ longer shorter, longer ++ shorter = longest ++ after → P longer →
        longer.length ≤ longest.length := by
  classical
  let HasLength (n : Nat) : Prop := ∃ front after, front ++ after = piece ++ rest ∧ P front ∧
    front.length = n
  have some_length : HasLength piece.length := ⟨piece, rest, rfl, h, rfl⟩
  have bound {front after : List Char} (e : front ++ after = piece ++ rest) :
      front.length ≤ (piece ++ rest).length := by rw [← e]; simp
  obtain ⟨longest, after, e, holds, len⟩ := Nat.findGreatest_spec (bound rfl) some_length
  refine ⟨longest, after, e, holds, fun longer shorter e' holds' => ?_⟩
  rw [len]
  exact Nat.le_findGreatest (bound (e'.trans e)) ⟨longer, shorter, e'.trans e, holds', rfl⟩

theorem exists_first_digit {c : Char} (h : c.isDigit) (rest : List Char) :
    ∃ piece after, First (c :: rest) .numericLiteral piece after := by
  have short : IsNumeral [c] := ⟨[c], [], by simp, by simpa using h, by simp, .inl rfl⟩
  obtain ⟨piece, after, e, shape, longest⟩ := exists_longest short rest
  refine ⟨piece, after, ?_⟩
  have := First.numeral shape longest
  rwa [e] at this

theorem exists_first_letter {c : Char} (h : isLetter c) (rest : List Char) :
    ∃ kind piece after, First (c :: rest) kind piece after := by
  have := First.word h (longestRun_takeWhile isWordPart rest)
  rw [List.cons_append, List.takeWhile_append_dropWhile] at this
  exact ⟨_, _, _, this⟩

theorem exists_first_hyphen (rest : List Char) :
    ∃ kind piece after, First ('-' :: rest) kind piece after := by
  by_cases h : rest.head? = some '-'
  · obtain ⟨more, rfl⟩ := List.head?_eq_some_iff.mp h
    have := First.comment (longestRun_takeWhile (fun c => !isLineEnd c) more)
    rw [List.cons_append, List.cons_append, List.takeWhile_append_dropWhile] at this
    exact ⟨_, _, _, this⟩
  · exact ⟨.symbol, _, _, .symbol (by decide) fun both => h both.2⟩

/-- A character that is no white space and begins no lexeme has a shape that
says so. -/
theorem opening?_stray {c : Char} {rest : List Char} (ne : c ≠ Quoted.mark)
    (blank : isWhiteSpace c = false)
    (none : ∀ kind piece after, ¬ First (c :: rest) kind piece after) :
    opening? c = some .stray := by
  have no_hyphen : c ≠ '-' := by
    intro given
    subst given
    obtain ⟨kind, piece, after, first⟩ := exists_first_hyphen rest
    exact none _ _ _ first
  have no_letter : ¬ isLetter c := fun letter =>
    let ⟨_, _, _, first⟩ := exists_first_letter letter rest
    none _ _ _ first
  have no_digit : ¬ c.isDigit := fun digit =>
    let ⟨_, _, first⟩ := exists_first_digit digit rest
    none _ _ _ first
  have no_symbol : ¬ symbols.isStart c := fun start =>
    let ⟨_, mem⟩ := exists_symbol start
    none _ _ _ (.symbol mem fun both => no_hyphen both.1)
  simp [opening?, no_hyphen, ne, no_letter, no_digit, blank, no_symbol]

/-- Why an error stops a scan: a string is not closed, or a character begins no
lexeme. -/
def faultOf (piece : List Char) : LexicalFault :=
  if piece.head? = some Quoted.mark then .unterminatedString else .unrecognizedCharacter

theorem faultOf_ne (piece : List Char) : faultOf piece ≠ .unrecognizedSymbol := by
  unfold faultOf
  split <;> simp

theorem Broken.spans {text piece : List Char} (h : Broken text piece) :
    ∃ (shape : Shape) (rest : List Char), text = piece ++ rest ∧
      shape.Spans piece rest ∧ shape.kind piece = .error (faultOf piece) := by
  cases h with
  | @unterminated rest none =>
    refine ⟨.quoted false, [], by simp, ⟨?_, by simp⟩, rfl⟩
    refine ⟨Quoted.mark, rest, .quoted false, rfl, rfl, ?_⟩
    rcases closes_or_open rest with ⟨body, after, rfl, inner, last⟩ | stays
    · have := First.string ⟨body, inner, rfl⟩ last
      rw [List.cons_append, List.append_assoc] at this
      exact absurd this (none _ _ _)
    · exact stays
  | @stray c rest ne blank none =>
    exact ⟨.stray, rest, rfl,
      ⟨⟨c, [], .stray, rfl, opening?_stray ne blank none, rfl⟩, fun _ _ => rfl⟩,
      by simp [Shape.kind, faultOf, ne]⟩

end Token

end SelectLang
