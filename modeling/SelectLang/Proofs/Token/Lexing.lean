import SelectLang.Proofs.Token.Lexemes

/-!
# Lexing by the grammar

The tokens that a scan finds are those of the lexical grammar.

Results:
* `finish_after_spans`: a scan cuts off a lexeme exactly where its shape ends.
* `Lexes.lex_eq`: a derivation gives the tokens that the scan finds.
* `exists_lexes`: every text has a derivation.
* `lexes_iff_lex_eq`: so the scan decides the grammar; it comes to the end of
  the text exactly if that is a sequence of lexemes, and no symbol is ever
  missing.
-/
namespace SelectLang

open SelectLang.Unicode SelectLang.Token

namespace Scan

abbrev between (start : Nat) (lexemes : List Lexeme) : Scan := ⟨.between, start, lexemes⟩

def tokens (s : Scan) : List Token := s.lexemes.reverse.map (·.token)

/-! ## Ends of lexemes -/

theorem leave_outside (s : Scan) (shape : Shape) (pending : List Char) :
    s.leave.state ≠ .inside shape pending := by
  obtain ⟨state, start, lexemes⟩ := s
  cases state with
  | between => simp [leave]
  | halted fault => simp [leave]
  | inside shape pending => simp only [leave]; split <;> simp

theorem leave_of_outside {s : Scan} (h : ∀ shape pending, s.state ≠ .inside shape pending) :
    s.leave = s := by
  unfold leave
  split
  · next inside => exact absurd inside (h _ _)
  · rfl

theorem finish_leave (s : Scan) : s.leave.finish = s.finish := by
  simp only [finish, leave_of_outside s.leave_outside]

theorem push_leave {s : Scan} {shape : Shape} {pending : List Char}
    (h : s.state = .inside shape pending) {c : Char} (ended : shape.extend? c = none) :
    s.leave.push c = s.push c := by
  rw [show s.push c = s.leave.enter c by simp [push, h, ended]]
  unfold push
  split
  · next inside => exact absurd inside (s.leave_outside _ _)
  · rfl

theorem finish_after_leave {s : Scan} {shape : Shape} {pending : List Char}
    (h : s.state = .inside shape pending) {rest : List Char}
    (ended : ∀ c, rest.head? = some c → shape.extend? c = none) :
    (s.after rest).finish = (s.leave.after rest).finish := by
  cases rest with
  | nil => rw [after_nil, after_nil, finish_leave]
  | cons c rest => rw [after_cons, after_cons, push_leave h (ended c rfl)]

theorem after_grown {s : Scan} {shape longer : Shape} {pending text : List Char}
    (h : s.state = .inside shape pending) (grown : shape.grown? text = some longer) :
    s.after text = { s with state := .inside longer (text.reverse ++ pending) } := by
  induction text generalizing s shape pending with
  | nil => cases grown; rw [after_nil, List.reverse_nil, List.nil_append, ← h]
  | cons c rest ih =>
    obtain ⟨next, h1, h2⟩ := Option.bind_eq_some_iff.mp grown
    have step : s.push c = { s with state := .inside next (c :: pending) } := by
      simp [push, h, h1]
    rw [after_cons, step, ih rfl h2]
    simp

theorem after_blank {gap : List Char} (h : ∀ c ∈ gap, isWhiteSpace c) (n : Nat)
    (older : List Lexeme) : (between n older).after gap =
      between (n + (String.ofList gap).utf8ByteSize) older := by
  induction gap generalizing n with
  | nil => rfl
  | cons c rest ih =>
    have blank := Shape.opening?_whiteSpace (h c (List.mem_cons_self ..))
    have step : (between n older).push c = between (n + c.utf8Size) older := by
      simp [push, enter, blank]
    have size : (String.ofList (c :: rest)).utf8ByteSize =
        c.utf8Size + (String.ofList rest).utf8ByteSize := by
      rw [← List.singleton_append, String.ofList_append, ← String.singleton_eq_ofList,
        String.utf8ByteSize_append, String.utf8ByteSize_singleton]
    rw [after_cons, step, size, ← Nat.add_assoc]
    exact ih (fun d hd => h d (List.mem_cons_of_mem _ hd)) _

theorem finish_after_spans {shape : Shape} {piece rest : List Char} (h : shape.Spans piece rest)
    (n : Nat) (older : List Lexeme) :
    ((between n older).after (piece ++ rest)).finish =
      ((leave ⟨.inside shape piece.reverse, n, older⟩).after rest).finish := by
  obtain ⟨c, run, first, rfl, opened, grown⟩ := h.grown
  have step : (between n older).push c = ⟨.inside first [c], n, older⟩ := by
    simp [push, enter, opened]
  rw [after_append, after_cons, step, after_grown rfl grown, List.reverse_cons]
  exact finish_after_leave rfl h.ended

end Scan

namespace Token

open Scan

theorem First.finish_after {text piece rest : List Char} {kind : Kind}
    (h : First text kind piece rest) (n : Nat) (older : List Lexeme) :
    ((between n older).after text).finish =
      ((between (n + (String.ofList piece).utf8ByteSize)
        (⟨⟨kind, String.ofList piece⟩, n⟩ :: older)).after rest).finish := by
  obtain ⟨shape, spans, known⟩ := h.spans
  rw [h.eq_append, finish_after_spans spans]
  simp [leave, known]

theorem Broken.finish_after {text piece : List Char} (h : Broken text piece) (n : Nat)
    (older : List Lexeme) : ((between n older).after text).finish =
      ⟨.halted (faultOf piece), n + (String.ofList piece).utf8ByteSize,
        ⟨⟨.error, String.ofList piece⟩, n⟩ :: older⟩ := by
  obtain ⟨shape, rest, rfl, spans, unknown⟩ := h.spans
  rw [finish_after_spans spans]
  simp only [leave, List.reverse_reverse, unknown]
  rw [after_of_halted rfl]
  rfl

/-- A derivation gives what the scan finds, and why the scan stops. -/
theorem Lexes.finish_after {text : List Char} {tokens : List Token} (h : Lexes text tokens)
    (n : Nat) (older : List Lexeme) :
    ((between n older).after text).finish.tokens = (between n older).tokens ++ tokens ∧
      ((between n older).after text).finish.fault? ≠ some .unrecognizedSymbol := by
  induction h generalizing n older with
  | atEnd gap =>
    have e := after_blank gap.inside n older
    rw [e]
    exact ⟨by simp [finish, leave, Scan.tokens], by simp [finish, leave, fault?]⟩
  | error gap broken =>
    have e := after_blank gap.inside n older
    rw [after_append, e, broken.finish_after]
    exact ⟨by simp [Scan.tokens], by simpa [fault?] using faultOf_ne _⟩
  | token gap first _ ih =>
    have e := after_blank gap.inside n older
    rw [after_append, e, first.finish_after]
    refine ⟨(ih _ _).1.trans ?_, (ih _ _).2⟩
    simp [Scan.tokens]

theorem Lexes.lex_eq {source : String} {tokens : List Token} (h : Lexes source.toList tokens) :
    lex source = tokens :=
  (h.finish_after 0 []).1

theorem Lexes.unique {text : List Char} {tokens others : List Token} (h : Lexes text tokens)
    (h' : Lexes text others) : tokens = others :=
  ((h.finish_after 0 []).1.symm.trans (h'.finish_after 0 []).1)

theorem exists_lexes (text : List Char) : ∃ tokens, Lexes text tokens := by
  induction h : text.length using Nat.strongRecOn generalizing text with
  | ind n ih =>
  have gap := longestRun_takeWhile isWhiteSpace text
  have split := List.takeWhile_append_dropWhile (p := isWhiteSpace) (l := text)
  generalize text.takeWhile isWhiteSpace = front at gap split
  generalize text.dropWhile isWhiteSpace = rest at gap split
  subst split
  match rest with
  | [] => exact ⟨_, by simpa using Lexes.atEnd gap⟩
  | c :: rest =>
    by_cases first : ∃ kind piece after, First (c :: rest) kind piece after
    · obtain ⟨kind, piece, after, first⟩ := first
      have shorter : after.length < n := by
        have := List.length_pos_iff.mpr first.piece_ne_nil
        rw [← h, List.length_append, first.eq_append, List.length_append]
        omega
      obtain ⟨tokens, lexes⟩ := ih after.length shorter after rfl
      exact ⟨_, .token gap first lexes⟩
    · have none : ∀ kind piece after, ¬ First (c :: rest) kind piece after :=
        fun kind piece after h => first ⟨kind, piece, after, h⟩
      by_cases hc : c = Quoted.mark
      · subst hc
        exact ⟨_, .error gap (.unterminated none)⟩
      · exact ⟨_, .error gap (.stray hc (gap.outside c rfl) none)⟩

theorem lexes_lex (source : String) : Lexes source.toList (lex source) := by
  obtain ⟨tokens, lexes⟩ := exists_lexes source.toList
  rwa [lexes.lex_eq]

/-- The end token comes last exactly if no error stands before it. -/
theorem Lexes.getLast?_iff {text : List Char} {tokens : List Token} (h : Lexes text tokens) :
    tokens.getLast? = some Token.atEnd ↔ Lexical text := by
  refine ⟨?_, ?_⟩
  · intro last
    induction h with
    | atEnd gap => exact .blank gap
    | error gap broken => simp [Token.atEnd] at last
    | token gap first rest ih =>
      rw [List.getLast?_cons_of_ne_nil rest.ne_nil] at last
      exact .lexeme gap first (ih last)
  · intro whole
    have ends : ∃ others, Lexes text others ∧ others.getLast? = some Token.atEnd := by
      clear h
      induction whole with
      | blank gap => exact ⟨_, .atEnd gap, rfl⟩
      | lexeme gap first _ ih =>
        obtain ⟨others, lexes, last⟩ := ih
        exact ⟨_, .token gap first lexes, by rw [List.getLast?_cons_of_ne_nil lexes.ne_nil, last]⟩
    obtain ⟨others, lexes, last⟩ := ends
    rwa [h.unique lexes]

/-- **The scan decides the lexical grammar.** The tokens that a scan finds are
the ones of the grammar and no others; the last one is the end exactly if the
text is a sequence of lexemes, and the scan never stops for want of a symbol. -/
theorem lexes_iff_lex_eq (source : String) :
    (∀ tokens, Lexes source.toList tokens ↔ lex source = tokens) ∧
      ((lex source).getLast? = some Token.atEnd ↔ Lexical source.toList) ∧
      (Lexing.ofText source).fault ≠ some .unrecognizedSymbol :=
  ⟨fun _ => ⟨Lexes.lex_eq, fun e => e ▸ lexes_lex source⟩, (lexes_lex source).getLast?_iff,
    ((lexes_lex source).finish_after 0 []).2⟩

end Token

end SelectLang
