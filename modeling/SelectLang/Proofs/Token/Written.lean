import SelectLang.Proofs.Token.Lexing

/-!
# Tokens of written text

A program is written as pieces with blanks, commas and semicolons between them.
None of these goes on with a word, a numeral or a string, so each piece is a token
by itself, whatever is written behind it.

* `IsName name`: the text is an identifier and nothing else.
* `Breaks rest`: the text is empty or begins with a blank, a comma or a
  semicolon.
* `Solid kind piece`: the piece is a lexeme of the kind wherever a break follows.
* `Cuts text tokens`: the text is cut into the tokens wherever a break follows.

Results:
* `First.unique`: a text has one first lexeme.
* `isName_iff`: a name is a word that is not reserved.
* `Lexes.lawful`: the identifiers of every text are names, and its numeric
  literals are numerals.
* `solid_name`, `solid_quote`, `solid_numeral`: what a program is written with is
  solid.
* `Cuts.append`, `Cuts.lex_eq`: texts that are cut into tokens can be put
  together, and the scan cuts them so.
-/
namespace SelectLang.Token

open SelectLang.Unicode

/-- The text is an identifier and nothing else. -/
def IsName (name : String) : Prop := lex name = [⟨.identifier, name⟩, Token.atEnd]

instance (name : String) : Decidable (IsName name) :=
  inferInstanceAs (Decidable (lex name = [⟨.identifier, name⟩, Token.atEnd]))

/-! ## Lexemes and white space -/

theorem First.no_gap {text piece rest : List Char} {kind : Kind} (h : First text kind piece rest) :
    LongestRun isWhiteSpace [] text where
  inside := by simp
  outside c hc := by
    obtain ⟨shape, spans, -⟩ := h.spans
    obtain ⟨d, run, first, rfl, opened, -⟩ := spans.grown
    rw [h.eq_append, List.cons_append, List.head?_cons, Option.some.injEq] at hc
    subst hc
    refine Bool.eq_false_iff.mpr fun blank => ?_
    rw [Shape.opening?_whiteSpace blank] at opened
    cases opened

theorem First.lexes {text piece rest : List Char} {kind : Kind} {tokens : List Token}
    (h : First text kind piece rest) (further : Lexes rest tokens) :
    Lexes text (⟨kind, String.ofList piece⟩ :: tokens) :=
  .token h.no_gap h further

theorem First.unique {text piece rest piece' rest' : List Char} {kind kind' : Kind}
    (h : First text kind piece rest) (h' : First text kind' piece' rest') :
    kind = kind' ∧ piece = piece' ∧ rest = rest' := by
  obtain ⟨tokens, lexes⟩ := exists_lexes rest
  obtain ⟨tokens', lexes'⟩ := exists_lexes rest'
  have same := (h.lexes lexes).unique (h'.lexes lexes')
  obtain ⟨rfl, literal⟩ := Token.mk.inj (List.cons.inj same).1
  obtain rfl : piece = piece' := String.ofList_inj.mp literal
  have split := h.eq_append.symm.trans h'.eq_append
  exact ⟨rfl, rfl, List.append_cancel_left split⟩

theorem lexes_nil : Lexes [] [Token.atEnd] := .atEnd ⟨by simp, by simp⟩

theorem Lexes.blank {c : Char} {text : List Char} {tokens : List Token} (hc : isWhiteSpace c)
    (h : Lexes text tokens) : Lexes (c :: text) tokens := by
  have longer {gap rest : List Char} (run : LongestRun isWhiteSpace gap rest) :
      LongestRun isWhiteSpace (c :: gap) rest :=
    ⟨by simpa using ⟨hc, run.inside⟩, run.outside⟩
  cases h with
  | atEnd gap => exact .atEnd (longer gap)
  | error gap broken => exact .error (longer gap) broken
  | token gap first rest => exact .token (longer gap) first rest

/-! ## Names -/

theorem First.of_identifier {text piece rest : List Char} {kind : Kind}
    (h : First text kind piece rest) (identifier : kind = .identifier) :
    ∃ c run, piece = c :: run ∧ isLetter c ∧ (∀ d ∈ run, isWordPart d) ∧
      ReservedWord.kindOf (String.ofList piece) = .identifier := by
  cases h with
  | @word c run rest letter longest => exact ⟨c, run, rfl, letter, longest.inside, identifier⟩
  | symbol mem _ =>
    have no_name : ∀ entry ∈ symbols, entry.2 ≠ .identifier := by decide
    exact absurd identifier (no_name _ mem)
  | comment _ => cases identifier
  | string _ _ => cases identifier
  | numeral _ _ => cases identifier

theorem isName_of_word {name : String} {c : Char} {run : List Char} (e : name.toList = c :: run)
    (letter : isLetter c) (parts : ∀ d ∈ run, isWordPart d)
    (kind : ReservedWord.kindOf name = .identifier) : IsName name := by
  have first : First (c :: run ++ []) _ (c :: run) [] := .word letter ⟨parts, by simp⟩
  rw [← e, String.ofList_toList, kind, List.append_nil] at first
  have lexes := first.lexes lexes_nil
  rw [String.ofList_toList] at lexes
  exact lexes.lex_eq

theorem isName_iff (name : String) :
    IsName name ↔ ∃ c run, name.toList = c :: run ∧ isLetter c ∧ (∀ d ∈ run, isWordPart d) ∧
      ReservedWord.kindOf name = .identifier := by
  refine ⟨fun h => ?_, fun ⟨c, run, e, letter, parts, kind⟩ => isName_of_word e letter parts kind⟩
  have lexes := lexes_lex name
  rw [show lex name = _ from h] at lexes
  generalize source : name.toList = text at lexes
  cases lexes with
  | @token gap text piece rest _ _ _ first _ =>
    obtain ⟨c, run, e, letter, parts, kind⟩ := first.of_identifier rfl
    have split := first.eq_append
    rw [String.toList_ofList] at source
    -- The one lexeme is as long as the whole text.
    have alone : gap = [] ∧ rest = [] := by
      have := congrArg List.length source
      rw [split, List.length_append, List.length_append] at this
      exact ⟨List.eq_nil_of_length_eq_zero (by omega), List.eq_nil_of_length_eq_zero (by omega)⟩
    obtain ⟨rfl, rfl⟩ := alone
    exact ⟨c, run, by rw [← e, split]; simp, letter, parts, kind⟩

theorem kindOf_ne {kind : Kind} (shape : kind ∈ [Kind.comment, .stringLiteral, .numericLiteral])
    (text : String) : ReservedWord.kindOf text ≠ kind := by
  have no_word : ∀ entry ∈ ReservedWord.table,
      entry.2 ∉ [Kind.comment, .stringLiteral, .numericLiteral] := by decide
  rintro rfl
  rcases ReservedWord.kindOf_cases text with same | mem
  · simp [same] at shape
  · exact no_word _ mem shape

theorem First.of_numericLiteral {text piece rest : List Char} {kind : Kind}
    (h : First text kind piece rest) (number : kind = .numericLiteral) : IsNumeral piece := by
  cases h with
  | numeral shape _ => exact shape
  | word _ _ => exact absurd number (kindOf_ne (by decide) _)
  | symbol mem _ =>
    have no_number : ∀ entry ∈ symbols, entry.2 ≠ .numericLiteral := by decide
    exact absurd number (no_number _ mem)
  | comment _ => cases number
  | string _ _ => cases number

theorem First.of_stringLiteral {text piece rest : List Char} {kind : Kind}
    (h : First text kind piece rest) (string : kind = .stringLiteral) : IsString piece := by
  cases h with
  | string shape _ => exact shape
  | word _ _ => exact absurd string (kindOf_ne (by decide) _)
  | symbol mem _ =>
    have no_string : ∀ entry ∈ symbols, entry.2 ≠ .stringLiteral := by decide
    exact absurd string (no_string _ mem)
  | comment _ => cases string
  | numeral _ _ => cases string

/-- An identifier is a name, and a numeric literal a numeral. -/
structure Lawful (t : Token) : Prop where
  isName : t.kind = .identifier → IsName t.literal
  isNumeral : t.kind = .numericLiteral → IsNumeral t.literal.toList

theorem First.lawful {text piece rest : List Char} {kind : Kind} (h : First text kind piece rest) :
    Lawful ⟨kind, String.ofList piece⟩ where
  isName identifier := by
    obtain ⟨c, run, rfl, letter, parts, known⟩ := h.of_identifier identifier
    exact isName_of_word String.toList_ofList letter parts known
  isNumeral number := by
    rw [String.toList_ofList]
    exact h.of_numericLiteral number

theorem Lexes.lawful {text : List Char} {tokens : List Token} (h : Lexes text tokens) :
    ∀ t ∈ tokens, t.Lawful := by
  induction h with
  | atEnd _ => simpa using ⟨by simp [Token.atEnd], by simp [Token.atEnd]⟩
  | error _ _ => simpa using ⟨by simp, by simp⟩
  | token _ first _ ih => exact List.forall_mem_cons.mpr ⟨first.lawful, ih⟩

/-! ## Breaks -/

/-- The text is empty or begins with a blank, a comma or a semicolon. -/
def Breaks (rest : List Char) : Prop := ∀ c, rest.head? = some c → c ∈ [' ', ',', ';']

theorem breaks_cons {c : Char} (h : c ∈ [' ', ',', ';']) (rest : List Char) :
    Breaks (c :: rest) := by
  intro d hd
  obtain rfl : c = d := Option.some.inj hd
  exact h

theorem Breaks.append {a b : List Char} (ha : Breaks a) (hb : Breaks b) : Breaks (a ++ b) := by
  cases a with
  | nil => exact hb
  | cons c rest => exact breaks_cons (ha c rfl) _

/-- A break goes on with no word, no numeral and no string. -/
theorem of_break {c : Char} (h : c ∈ [' ', ',', ';']) :
    isWordPart c = false ∧ c.isDigit = false ∧ c ≠ '.' ∧ c ≠ Quoted.mark := by
  simp only [List.mem_cons, List.not_mem_nil, or_false] at h
  rcases h with rfl | rfl | rfl <;> decide +kernel

/-! ## Pieces that are lexemes -/

/-- The piece is a lexeme of the kind wherever a break follows. -/
def Solid (kind : Kind) (piece : List Char) : Prop :=
  ∀ rest, Breaks rest → First (piece ++ rest) kind piece rest

theorem solid_word {text : String} {c : Char} {run : List Char} (e : text.toList = c :: run)
    (letter : isLetter c) (parts : ∀ d ∈ run, isWordPart d) :
    Solid (ReservedWord.kindOf text) text.toList := by
  intro rest breaks
  have first := First.word letter ⟨parts, fun d hd => (of_break (breaks d hd)).1⟩
  rwa [← e, String.ofList_toList] at first

theorem solid_name {name : String} (h : IsName name) : Solid .identifier name.toList := by
  obtain ⟨c, run, e, letter, parts, kind⟩ := (isName_iff name).mp h
  rw [← kind]
  exact solid_word e letter parts

theorem solid_reserved {text : String} {kind : Kind} (h : (text, kind) ∈ ReservedWord.table) :
    Solid kind text.toList := by
  have table : ∀ entry ∈ ReservedWord.table, ReservedWord.kindOf entry.1 = entry.2 ∧
      entry.1.toList.head?.any isLetter ∧ entry.1.toList.all isWordPart := by decide +kernel
  obtain ⟨known, start, parts⟩ := table _ h
  obtain ⟨c, first, letter⟩ := (Option.any_eq_true ..).mp start
  obtain ⟨run, e⟩ := List.head?_eq_some_iff.mp first
  rw [← show ReservedWord.kindOf text = kind from known]
  refine solid_word e letter fun d hd => List.all_eq_true.mp parts d ?_
  rw [e]
  exact List.mem_cons_of_mem _ hd

theorem quotedBody_double (value : List Char) : QuotedBody (Quoted.double value) := by
  induction value with
  | nil => exact .nil
  | cons c rest ih =>
    by_cases hc : c = Quoted.mark
    · subst hc
      rw [Quoted.double_cons_mark]
      exact .pair ih
    · rw [Quoted.double_cons hc]
      exact .char hc ih

theorem solid_quote (value : List Char) : Solid .stringLiteral (Quoted.quote value) :=
  fun _ breaks => .string ⟨_, quotedBody_double value, rfl⟩ fun mark =>
    (of_break (breaks _ mark)).2.2.2 rfl

theorem IsNumeral.mem {piece : List Char} (h : IsNumeral piece) :
    ∀ c ∈ piece, c.isDigit ∨ c = '.' := by
  obtain ⟨whole, fraction, -, digits, decimals, rfl | rfl⟩ := h <;> intro c hc
  · exact .inl (digits c hc)
  · rcases List.mem_append.mp hc with hc | hc
    · exact .inl (digits c hc)
    · rcases List.mem_cons.mp hc with rfl | hc
      · exact .inr rfl
      · exact .inl (decimals c hc)

theorem solid_numeral {piece : List Char} (h : IsNumeral piece) : Solid .numericLiteral piece := by
  refine fun rest breaks => .numeral h fun longer shorter e numeral => ?_
  rcases List.append_eq_append_iff.mp e with ⟨more, rfl, -⟩ | ⟨more, rfl, split⟩
  · simp
  · -- What a longer numeral had of the rest would begin with a break.
    cases more with
    | nil => simp
    | cons c more =>
      obtain ⟨-, no_digit, no_point, -⟩ := of_break (breaks c (by simp [split]))
      rcases numeral.mem c (by simp) with digit | point
      · rw [no_digit] at digit; cases digit
      · exact absurd point no_point

theorem solid_symbol {c : Char} {kind : Kind} (mem : (String.singleton c, kind) ∈ symbols)
    (hyphen : c ≠ '-') : Solid kind [c] := fun _ _ => .symbol mem fun both => hyphen both.1

/-! ## Texts that are cut into tokens -/

/-- The text is cut into the tokens wherever a break follows. -/
def Cuts (text : List Char) (tokens : List Token) : Prop :=
  ∀ rest others, Breaks rest → Lexes rest others → Lexes (text ++ rest) (tokens ++ others)

theorem cuts_nil : Cuts [] [] := fun _ _ _ lexes => lexes

theorem Solid.cuts {kind : Kind} {text : String} (h : Solid kind text.toList) :
    Cuts text.toList [⟨kind, text⟩] := fun rest others breaks lexes => by
  have cut := (h rest breaks).lexes lexes
  rwa [String.ofList_toList] at cut

theorem Cuts.blank {text : List Char} {tokens : List Token} (h : Cuts text tokens) :
    Cuts (' ' :: text) tokens := fun rest others breaks lexes =>
  (h rest others breaks lexes).blank (by decide +kernel)

theorem Cuts.append {a b : List Char} {first second : List Token} (ha : Cuts a first)
    (hb : Cuts b second) (breaks : Breaks b) : Cuts (a ++ b) (first ++ second) := by
  intro rest others ends lexes
  rw [List.append_assoc, List.append_assoc]
  exact ha _ _ (breaks.append ends) (hb _ _ ends lexes)

theorem Cuts.spaced {a b : List Char} {first second : List Token} (ha : Cuts a first)
    (hb : Cuts b second) : Cuts (a ++ ' ' :: b) (first ++ second) :=
  ha.append hb.blank (breaks_cons (by simp) _)

/-- Two texts with a comma or a semicolon and a blank between them. -/
theorem Cuts.separated {a b : List Char} {first second : List Token} {c : Char} {kind : Kind}
    (mem : (String.singleton c, kind) ∈ symbols) (breaks : c ∈ [' ', ',', ';']) (ha : Cuts a first)
    (hb : Cuts b second) :
    Cuts (a ++ c :: ' ' :: b) (first ++ ⟨kind, String.singleton c⟩ :: second) := by
  have hyphen : c ≠ '-' := by
    intro given
    subst given
    simp at breaks
  have single : Cuts (String.singleton c).toList [⟨kind, String.singleton c⟩] :=
    Solid.cuts (by simpa using solid_symbol mem hyphen)
  rw [String.toList_singleton] at single
  exact ha.append (single.spaced hb) (breaks_cons breaks _)

theorem Cuts.lex_eq {text : String} {tokens : List Token} (h : Cuts text.toList tokens) :
    lex text = tokens ++ [Token.atEnd] := by
  have lexes := h [] _ (by simp [Breaks]) lexes_nil
  rw [List.append_nil] at lexes
  exact lexes.lex_eq

end SelectLang.Token
