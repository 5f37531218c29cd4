import SelectLang.Proofs.Query.Descent
import SelectLang.Proofs.Query.Failing
import SelectLang.Proofs.Token.ByteScan

/-!
# The account of a run

A run writes its records step by step, and what it has written in the end is the trace of
its text. That says what the run has done: which tokens it has found, where an error of
the scan is, which statements it has read, and how the reading ends.

* `ByteScan.account`: what a scan has written, told from where it stands.
* `Trace.Scanned source records`: the records are those of the tokens of the text, with
  the place of an error before it.

Results:
* `ByteScan.Sound.account_step`, `ByteScan.Sound.account_after`: what a step writes, and
  what a number of steps do.
* `ByteScan.exists_written`: what a whole scan writes.
* `Trace.exists_scanned`: the records of a scan.
* `Trace.ofSource_account`: the account of a run, in full.
-/
namespace SelectLang

open SelectLang.Token SelectLang.Grammar

/-! ## What a scan writes -/

namespace ByteScan

/-- What a scan has written, told from where it stands. -/
def account (s : ByteScan) : List Trace.Record :=
  match s.control, s.lexemes with
  | .stopped fault, last :: older =>
    older.reverse.map (fun lexeme => Trace.ofToken lexeme.token) ++
      (Trace.ofFault fault last ++ [Trace.ofToken last.token]) ++
      [Trace.ofCounts (older.length + 1) s.source.utf8ByteSize]
  | _, lexemes => lexemes.reverse.map fun lexeme => Trace.ofToken lexeme.token

section Account

variable {s : ByteScan}

theorem Sound.account_step (h : s.Sound) : s.step.account = s.account ++ s.notes := by
  cases h with
  | stopped control _ _ =>
    rw [step_stopped control]
    simp [notes, control]
  | @doing task before pending left control stands _ _ =>
    have before : s.account = s.lexemes.reverse.map fun lexeme => Trace.ofToken lexeme.token := by
      simp [account, control]
    rw [step_doing control stands.parts, before]
    simp only [notes, control, stands.parts]
    cases task.act left with
    | backup next =>
      rw [perform]
      split <;> simp [account]
    | emit kind => simp [perform, stands.emit, account, noted, stands.literal?, Trace.ofFault]
    | stop kind fault => simp [perform, stands.emit, account, noted, stands.literal?]
    | _ => simp [perform, account]

theorem Sound.account_after (h : s.Sound) (n : Nat) :
    (s.after n).account = s.account ++ Trace.written notes s.after n := by
  induction n with
  | zero => simp [ByteScan.after, Trace.written]
  | succ n ih =>
    rw [ByteScan.after, (h.after n).1.account_step, ih, Trace.written_succ, List.append_assoc]

end Account

end ByteScan

namespace Trace

theorem ofFault_of_ne {lexeme : Lexeme} (h : lexeme.token.kind ≠ .error)
    (fault : Option LexicalFault) : ofFault fault lexeme = [] := by
  cases fault <;> simp [ofFault, h]

/-- The account of a scan, if no lexeme but the last is an error. -/
theorem ofLexing_eq {l : Lexing} {older : List Lexeme} {last : Lexeme}
    (lexemes : l.lexemes = older.reverse ++ [last])
    (inner : ∀ lexeme ∈ older, lexeme.token.kind ≠ .error) (bytes : Nat) :
    ofLexing l bytes = older.reverse.map (fun lexeme => ofToken lexeme.token) ++
      (ofFault l.fault last ++ [ofToken last.token]) ++ [ofCounts (older.length + 1) bytes] := by
  have tokens : older.reverse.flatMap (fun lexeme =>
      ofFault l.fault lexeme ++ [ofToken lexeme.token]) =
        older.reverse.map fun lexeme => ofToken lexeme.token := by
    rw [List.map_eq_flatMap]
    refine List.flatMap_congr fun lexeme mem => ?_
    rw [ofFault_of_ne (inner lexeme (List.mem_reverse.mp mem)), List.nil_append]
  rw [ofLexing, lexemes, List.flatMap_append, tokens, List.flatMap_singleton, List.length_append,
    List.length_reverse]
  rfl

/-- No lexeme but the last is an error. -/
theorem exists_lexemes (source : String) : ∃ (older : List Lexeme) (last : Lexeme),
    (Lexing.ofText source).lexemes = older.reverse ++ [last] ∧
      ∀ lexeme ∈ older, lexeme.token.kind ≠ .error := by
  obtain ⟨body, last, tokens, inner⟩ := (lexes_lex source).exists_body
  obtain ⟨front, back, lexemes, rfl, final⟩ := List.map_eq_append_iff.mp tokens
  obtain ⟨lexeme, rfl, -⟩ := List.map_eq_singleton_iff.mp final
  refine ⟨front.reverse, lexeme, by rw [lexemes, List.reverse_reverse], fun other mem => ?_⟩
  exact (inner _ (List.mem_map_of_mem (List.mem_reverse.mp mem))).2.1

end Trace

/-- What a whole scan writes is the account of it. -/
theorem ByteScan.exists_written (source : String) : ∃ n,
    ((ofText source).after n).control = .stopped (Lexing.ofText source).fault ∧
      Trace.written notes (ofText source).after n =
        Trace.ofLexing (Lexing.ofText source) source.utf8ByteSize := by
  have start := sound_ofText source
  obtain ⟨n, -, fault, stopped⟩ := start.exists_stopped
  obtain ⟨sound, same⟩ := start.after n
  have ends := sound.ofText_of_stopped stopped
  rw [same] at ends
  have whole := start.account_after n
  obtain ⟨older, last, lexemes, inner⟩ := Trace.exists_lexemes source
  rw [show (ofText source).source = source from rfl] at ends same
  refine ⟨n, by rw [stopped, ends], ?_⟩
  rw [Trace.ofLexing_eq lexemes inner]
  rw [ends, ← List.reverse_cons, List.reverse_inj] at lexemes
  rw [account, stopped, lexemes, same] at whole
  simpa [account, ofText, ends] using whole.symm

/-! ## The whole account -/

namespace Trace

/-- The records are those of the tokens of the text. An error is the last token, and its
record stands behind one of its place, which is the number of bytes of the text in front of
it: that text has the tokens before the error. -/
inductive Scanned (source : String) : List Record → Prop
  | whole : (∀ t ∈ lex source, t.kind ≠ .error) →
      Scanned source ((lex source).map fun t => ⟨.trace, .scanner, "emit " ++ t.text⟩)
  | error {body : List Token} {t : Token} {front rest : String} : lex source = body ++ [t] →
      t.kind = .error → (∀ u ∈ body, u.kind ≠ .error) → source = front ++ t.literal ++ rest →
      lex front = body ++ [Token.atEnd] →
      Scanned source (body.map (fun u => ⟨.trace, .scanner, "emit " ++ u.text⟩) ++
        [⟨.debug, .scanner, "lexical error at byte " ++ toString front.utf8ByteSize ++ ": " ++
          (faultOf t.literal.toList).reason⟩, ⟨.trace, .scanner, "emit " ++ t.text⟩])

/-- An error of the scan is told with the bytes of the text in front of it, which has the
tokens before. -/
theorem exists_place {source : String} {body : List Token} {t : Token}
    (tokens : lex source = body ++ [t]) (error : t.kind = .error) : ∃ front rest : String,
    source = front ++ t.literal ++ rest ∧ lex front = body ++ [Token.atEnd] ∧
      (Lexing.ofText source).lexemes.getLast? = some ⟨t, front.utf8ByteSize⟩ ∧
      (Lexing.ofText source).fault = some (faultOf t.literal.toList) := by
  obtain ⟨front, back, piece, text, rfl, broken, begins, scan⟩ :=
    (lexes_lex source).exists_front (by simp [tokens]) error
  obtain ⟨rest, rfl, -⟩ := broken.exists_rest
  obtain ⟨lexemes, reached⟩ := scan 0 []
  have lexing : Lexing.ofText source = ⟨_, _⟩ :=
    congrArg (fun s : Scan => Lexing.mk s.lexemes.reverse s.fault?)
      (reached.trans (broken.finish_after _ lexemes))
  have before := begins [] [Token.atEnd] nofun lexes_nil
  rw [tokens, List.dropLast_concat, List.append_nil] at before
  refine ⟨String.ofList front, String.ofList rest, ?_, ?_, ?_, ?_⟩
  · rw [← String.toList_inj, text]
    simp
  · apply Lexes.lex_eq
    rwa [String.toList_ofList]
  · simp [lexing]
  · simp [lexing, Scan.fault?]

theorem exists_scanned (source : String) : ∃ records, Scanned source records ∧
    ofLexing (Lexing.ofText source) source.utf8ByteSize =
      records ++ [⟨.debug, .scanner, "scanned " ++ toString (lex source).length ++
        " tokens from " ++ toString source.utf8ByteSize ++ " bytes"⟩] := by
  obtain ⟨older, last, lexemes, inner⟩ := exists_lexemes source
  have tokens : lex source = older.reverse.map (·.token) ++ [last.token] := by
    rw [lex, Lexing.tokens, lexemes, List.map_append]
    rfl
  have known : ∀ t ∈ older.reverse.map (·.token), t.kind ≠ .error := by simpa using inner
  have size : (lex source).length = older.length + 1 := by simp [tokens]
  rw [ofLexing_eq lexemes inner, size]
  by_cases error : last.token.kind = .error
  · obtain ⟨front, rest, text, before, final, fault⟩ := exists_place tokens error
    rw [lexemes, List.getLast?_append, List.getLast?_singleton] at final
    have start : last.start = front.utf8ByteSize := congrArg Lexeme.start (Option.some.inj final)
    refine ⟨_, .error tokens error known text before, ?_⟩
    rw [fault, ofFault, if_pos error, start, List.map_map]
    rfl
  · refine ⟨_, .whole ?_, ?_⟩
    · rw [tokens]
      exact List.forall_mem_append.mpr ⟨known, by simpa using error⟩
    · rw [ofFault_of_ne error, tokens, List.map_append, List.map_map]
      rfl

/-- **The account of a run is faithful.** The records of a run over a text are those of its
tokens in order, with the place of an error directly before it; the counts of tokens and
bytes; the statements that have been read, numbered from 0; and at the end the error, if
the text is no program. If it is one, the statements are those of the program. If not, they
are those of the tokens before the statement that the error stands in, and from there on
the tokens have the error by themselves. The steps of a scan and of a descent write just
these records. -/
theorem ofSource_account (source : String) : ∃ records statements,
    ofSource source =
        records ++ [⟨.debug, .scanner, "scanned " ++ toString (lex source).length ++
            " tokens from " ++ toString source.utf8ByteSize ++ " bytes"⟩] ++
          statements.mapIdx (fun i s =>
            ⟨.debug, .reader, "parsed statement " ++ toString i ++ ": " ++ s.text⟩) ++
          (match parse source with
            | .error e => [⟨.debug, .reader, "parse failed: " ++ e.message⟩]
            | .ok _ => []) ∧
      Scanned source records ∧
      (∀ program, parse source = .ok program → statements = program) ∧
      (∀ e, parse source = .error e → ∃ i, BeginsAt (lex source) e.position i ∧
        readTokens ((lex source).take i) = .ok statements ∧
        readTokens ((lex source).drop i) = .error ⟨e.cause, e.token, e.position - i⟩) ∧
      ∃ m n, ((ByteScan.ofText source).after m).control = .stopped (Lexing.ofText source).fault ∧
        ((Descent.ofTokens (lex source)).after n).answers = [parse source] ∧
        ofSource source = written ByteScan.notes (ByteScan.ofText source).after m ++
          written Descent.notes (Descent.ofTokens (lex source)).after n := by
  obtain ⟨records, scanned, lexing⟩ := exists_scanned source
  have reading : ofReading (Reading.ofTokens 0 (lex source)) =
      (Reading.ofTokens 0 (lex source)).statements.reverse.mapIdx (fun i s =>
          ⟨.debug, .reader, "parsed statement " ++ toString i ++ ": " ++ s.text⟩) ++
        match parse source with
        | .error e => [⟨.debug, .reader, "parse failed: " ++ e.message⟩]
        | .ok _ => [] := rfl
  have whole : ofSource source = ofLexing (Lexing.ofText source) source.utf8ByteSize ++
      ofReading (Reading.ofTokens 0 (lex source)) := rfl
  refine ⟨records, (Reading.ofTokens 0 (lex source)).statements.reverse, ?_, scanned, ?_, ?_, ?_⟩
  · rw [whole, lexing, reading]
    simp only [List.append_assoc]
  · exact fun program read => Reading.statements_of_ok read
  · intro e read
    obtain ⟨i, statements, begins, complete, same, fails⟩ := exists_beginsAt read
    rw [same, List.reverse_reverse]
    exact ⟨i, begins, complete, fails⟩
  · obtain ⟨m, stopped, scan⟩ := ByteScan.exists_written source
    obtain ⟨position, n, reached, read⟩ := Descent.leads_first (lex source)
    refine ⟨m, n + 1, stopped, by rw [reached, parse], ?_⟩
    rw [whole, scan, read]

/-- A program with two-byte characters in it, and behind it a string that is not closed. -/
def unclosedSecond : String := "select é;--ß\nselect \x27x"

theorem ofSource_account_unclosedSecond :
    parse unclosedSecond = .error ⟨.lexical, ⟨.error, "\x27x"⟩, 5⟩ ∧
      BeginsAt (lex unclosedSecond) 5 4 ∧
      readTokens ((lex unclosedSecond).take 4) = .ok [.select ⟨[.column "é"], none, none⟩] ∧
      readTokens ((lex unclosedSecond).drop 4) = .error ⟨.lexical, ⟨.error, "\x27x"⟩, 1⟩ ∧
      ∃ records, Scanned unclosedSecond records ∧
        ofSource unclosedSecond = records ++
          [⟨.debug, .scanner, "scanned 6 tokens from 24 bytes"⟩,
            ⟨.debug, .reader, "parsed statement 0: SELECT é"⟩,
            ⟨.debug, .reader, "parse failed: lexical error at position 5: \"\x27x\""⟩] := by
  have tokens : lex unclosedSecond = [⟨.selectWord, "select"⟩, ⟨.identifier, "é"⟩,
      ⟨.semicolon, ";"⟩, ⟨.comment, "--ß"⟩, ⟨.selectWord, "select"⟩, ⟨.error, "\x27x"⟩] := by
    decide +kernel
  have read : parse unclosedSecond = .error ⟨.lexical, ⟨.error, "\x27x"⟩, 5⟩ := by
    rw [parse, tokens]
    rfl
  have begins : BeginsAt (lex unclosedSecond) 5 4 := by
    rw [tokens]
    exact ⟨by decide, by simp [uncommented], by simp, by simp⟩
  have first : readTokens ((lex unclosedSecond).take 4) =
      .ok [.select ⟨[.column "é"], none, none⟩] := by
    rw [tokens]
    rfl
  obtain ⟨records, statements, trace, scanned, -, failed, -⟩ := ofSource_account unclosedSecond
  obtain ⟨i, place, complete, fails⟩ := failed _ read
  obtain rfl : i = 4 := place.unique begins (by simp [tokens])
  obtain rfl := Except.ok.inj (complete.symm.trans first)
  refine ⟨read, begins, first, fails, records, scanned, ?_⟩
  rw [trace, read, tokens, List.append_assoc, List.append_assoc]
  exact congrArg (records ++ ·) (by decide +kernel)

example : ofSource "é\x27" = [⟨.trace, .scanner, "emit identifier(\"é\")"⟩,
    ⟨.debug, .scanner, "lexical error at byte 2: unterminated string literal"⟩,
    ⟨.trace, .scanner, "emit error(\"\x27\")"⟩,
    ⟨.debug, .scanner, "scanned 2 tokens from 3 bytes"⟩,
    ⟨.debug, .reader, "parse failed: unsupported statement type: identifier, literal: \"é\", " ++
      "at position 0"⟩] := by
  decide +kernel

end Trace

end SelectLang
