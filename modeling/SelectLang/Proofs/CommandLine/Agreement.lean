import SelectLang.CommandLine.Run
import SelectLang.Proofs.Query.Composition
import SelectLang.Proofs.Query.Literals
import Mathlib.Data.String.Defs

/-!
# Reports and readings

A run reports what reading its text gives, wherever the text comes from. It looks for
an error of the scan before it reads, while a reading may stop at another error before
that one; but a text with an error of the scan is never a program, so both fail
together, and they name the same token when the reading gets there.

* `Reads outside o source`: with the options, the text is read from outside or from
  the query.
* `Report.scanErrorText`, `Report.refusalText`: what a failed run writes.

Results:
* `Source.fetch_eq_ok_iff`: a source gives just such a text.
* `source?_eq_none_of_parse`: nothing is behind the error of a text.
* `Report.firstError?_eq_some`: a text has one error of the scan at most.
* `Report.ofText_of_ok`, `Report.ofText_of_scanError`, `Report.ofText_of_refused`: the
  three reports of a text.
* `Report.exists_scanErrorText_iff`: when a run reports an error of the scan.
* `report_agrees`: so the report agrees with the reading.
-/
namespace SelectLang

open SelectLang.Token SelectLang.Grammar

/-! ## Errors of a text -/

theorem source?_eq_none_of_parse {source : String} {e : ReadError}
    (h : parse source = .error e) : e.source? = none := by
  refine Option.eq_none_iff_forall_ne_some.mpr fun text behind => ?_
  obtain ⟨fault, cause, -⟩ := (e.source?_eq_some_iff text).mp behind
  exact ne_invalidNumber (lexes_lex source).lawful h fault cause

theorem mem_lex_of_lexical {source : String} {e : ReadError} (h : parse source = .error e)
    (lexical : e.cause = .lexical) : e.token ∈ lex source ∧ e.token.kind = .error := by
  have refuses := (readTokens_eq_error_iff ..).mp h
  have error := refuses.lexical_iff.mp lexical
  exact ⟨refuses.mem (by rw [error]; decide), error⟩

namespace CommandLine

/-! ## Sources -/

/-- The text is what a run with the options reads: the query, if that is no hyphen, or
what the bytes of the file or of standard input stand for. -/
inductive Reads (outside : Outside Id) (o : Options) (source : String) : Prop
  | query : o.file = none → o.query = some source → source ≠ "-" → Reads outside o source
  | file {path : String} : o.file = some path → outside.file path = .ok source.toUTF8 →
      Reads outside o source
  | standardInput : o.file = none → (o.query = none ∨ o.query = some "-") →
      outside.standardInput = .ok source.toUTF8 → Reads outside o source

theorem Source.decode_eq_ok_iff (bytes : ByteArray) (text : String) :
    Source.decode bytes = .ok text ↔ bytes = text.toUTF8 := by
  refine ⟨fun h => ?_, ?_⟩
  · unfold decode String.fromUTF8? at h
    split at h
    · next found =>
      cases h
      split at found
      · cases found
        rfl
      · cases found
    · cases h
  · rintro rfl
    exact decode_toUTF8 text

theorem Source.bind_decode_eq_ok_iff (answer : Except SourceFault ByteArray) (text : String) :
    answer.bind Source.decode = .ok text ↔ answer = .ok text.toUTF8 := by
  cases answer with
  | error fault => simp [Except.bind]
  | ok bytes => simpa [Except.bind] using decode_eq_ok_iff bytes text

theorem Source.fetch_eq_ok_iff (outside : Outside Id) (o : Options) (source : String) :
    ((Source.ofOptions o).fetch outside).run = .ok source ↔ Reads outside o source := by
  obtain ⟨query, file, tokens, verbose⟩ := o
  refine ⟨fun h => ?_, fun h => ?_⟩
  · cases file with
    | some path => exact .file rfl ((bind_decode_eq_ok_iff ..).mp h)
    | none =>
      cases query with
      | none => exact .standardInput rfl (.inl rfl) ((bind_decode_eq_ok_iff ..).mp h)
      | some text =>
        by_cases hyphen : text = "-"
        · subst hyphen
          exact .standardInput rfl (.inr rfl) ((bind_decode_eq_ok_iff ..).mp h)
        · simp only [ofOptions, hyphen, reduceIte, fetch] at h
          cases h
          exact .query rfl rfl hyphen
  · cases h with
    | query noFile asked hyphen =>
      cases noFile
      cases asked
      simp [ofOptions, hyphen, fetch]
    | file asked found =>
      cases asked
      exact (bind_decode_eq_ok_iff ..).mpr found
    | standardInput noFile asked found =>
      cases noFile
      rcases asked with asked | asked <;> cases asked
      · exact (bind_decode_eq_ok_iff ..).mpr found
      · exact (bind_decode_eq_ok_iff ..).mpr found

/-! ## Reports -/

namespace Report

/-- What a run writes before it reads: the tokens, if they are asked for. -/
def dumped (o : Options) (source : String) : String := if o.tokens then dump (lex source) else ""

/-- What a run writes of an error of the scan with the literal. -/
def scanErrorText (literal : String) : String :=
  "Error: Lexical error near " ++ Escaped.escape literal ++ "\n"

def refusalText (e : ReadError) : String :=
  "Error: Failed to parse input\n\nCaused by:\n    " ++ e.message ++ "\n"

/-- A text has one error of the scan at most. -/
theorem firstError?_eq_some {source : String} {t : Token} (mem : t ∈ lex source)
    (error : t.kind = .error) : firstError? (lex source) = some t := by
  obtain ⟨body, last, tokens, inner⟩ := (lexes_lex source).exists_body
  have none : body.find? (fun t => t.kind == .error) = none :=
    List.find?_eq_none.mpr fun s hs => by simpa using (inner s hs).2.1
  rw [tokens] at mem
  rcases List.mem_append.mp mem with mem | mem
  · exact absurd error (inner t mem).2.1
  · obtain rfl := List.mem_singleton.mp mem
    rw [firstError?, tokens, List.find?_append, none]
    simp [error]

theorem firstError?_eq_none {source : String} (clean : ∀ t ∈ lex source, t.kind ≠ .error) :
    firstError? (lex source) = none :=
  List.find?_eq_none.mpr fun t ht => by simpa using clean t ht

theorem dump_eq (tokens : List Token) : dump tokens =
    String.join (tokens.mapIdx fun i t =>
      String.leftpad 4 ' ' (toString i) ++ ": " ++ t.text ++ "\n") := by
  have line : dumpLine = fun i t => String.leftpad 4 ' ' (toString i) ++ ": " ++ t.text ++ "\n" := by
    funext i t
    have digits : (toString i).toList = Nat.toDigits 10 i := String.toList_ofList
    have number : String.leftpad 4 ' ' (toString i) =
        String.ofList (List.leftpad 4 ' ' (toString i).toList) := rfl
    rw [dumpLine, aligned, number, digits]
    rfl
  rw [dump, line]

theorem failureText_scanError (literal : String) :
    failureText ("Lexical error near " ++ Escaped.escape literal) [] = scanErrorText literal := by
  have opening : "Error: " ++ "Lexical error near " = "Error: Lexical error near " := by
    decide +kernel
  unfold failureText causeLines scanErrorText
  rw [← String.append_assoc, opening, String.append_empty]

theorem failureText_refusal (e : ReadError) :
    failureText "Failed to parse input" [e.message] = refusalText e := by
  have opening : "Error: " ++ "Failed to parse input" ++ "\n\nCaused by:\n    " =
      "Error: Failed to parse input\n\nCaused by:\n    " := by decide +kernel
  unfold failureText causeLines refusalText
  rw [← String.append_assoc, opening]

theorem ofText_of_ok {source : String} {statements : List Statement}
    (h : parse source = .ok statements) (o : Options) :
    ofText o source =
      ⟨0, dumped o source ++ String.join (statements.map (statementText o.verbose)), ""⟩ := by
  have read : readTokens (lex source) = .ok statements := h
  rw [ofText, firstError?_eq_none (ne_error_of_parse h), read]
  rfl

theorem ofText_of_scanError {source : String} {t : Token} (mem : t ∈ lex source)
    (error : t.kind = .error) (o : Options) :
    ofText o source = ⟨1, dumped o source, scanErrorText t.literal⟩ := by
  rw [ofText, firstError?_eq_some mem error, ← failureText_scanError]
  rfl

theorem ofText_of_refused {source : String} {e : ReadError} (h : parse source = .error e)
    (clean : ∀ t ∈ lex source, t.kind ≠ .error) (o : Options) :
    ofText o source = ⟨1, dumped o source, refusalText e⟩ := by
  have read : readTokens (lex source) = .error e := h
  have nothing := source?_eq_none_of_parse h
  rw [ofText, firstError?_eq_none clean, read, ← failureText_refusal]
  simp only [nothing]
  rfl

theorem ofOptions_of_reads {outside : Outside Id} {o : Options} {source : String}
    (reads : Reads outside o source) : (ofOptions outside o).run = ofText o source := by
  have text := (Source.fetch_eq_ok_iff outside o source).mpr reads
  have run : (ofOptions outside o).run = ofSource o ((Source.ofOptions o).fetch outside).run := by
    simp [ofOptions]
  rw [run, text, ofSource]

theorem refusalText_ne (e : ReadError) (literal : String) :
    refusalText e ≠ scanErrorText literal := by
  unfold refusalText scanErrorText
  generalize e.message = message
  generalize Escaped.escape literal = shown
  intro same
  have letter := congrArg (fun text : String => text.toList[7]?) same
  simp only [String.toList_append, List.append_assoc] at letter
  rw [List.getElem?_append_left (by simp), List.getElem?_append_left (by simp)] at letter
  simp at letter

theorem scanErrorText_ne_empty (literal : String) : scanErrorText literal ≠ "" := by
  unfold scanErrorText
  generalize Escaped.escape literal = shown
  intro same
  exact absurd (String.append_eq_empty_iff.mp same).2 (by decide)

/-- Whether its text has an error of the scan or not, a run over no program exits with 1 and
writes the tokens alone. -/
theorem ofText_of_error {source : String} {e : ReadError} (h : parse source = .error e)
    (o : Options) : (ofText o source).exitCode = 1 ∧ (ofText o source).out = dumped o source := by
  by_cases error : ∃ t ∈ lex source, t.kind = .error
  · obtain ⟨t, mem, error⟩ := error
    simp [ofText_of_scanError mem error]
  · have clean : ∀ t ∈ lex source, t.kind ≠ .error := by simpa using error
    simp [ofText_of_refused h clean]

theorem exists_scanErrorText_iff (o : Options) (source : String) :
    (∃ literal, (ofText o source).err = scanErrorText literal) ↔
      ∃ t ∈ lex source, t.kind = .error := by
  refine ⟨fun ⟨literal, text⟩ => ?_, fun ⟨t, mem, error⟩ => ⟨t.literal, ?_⟩⟩
  · refine Classical.byContradiction fun none => ?_
    have clean : ∀ t ∈ lex source, t.kind ≠ .error := by simpa using none
    cases read : parse source with
    | ok statements =>
      rw [ofText_of_ok read] at text
      exact scanErrorText_ne_empty literal text.symm
    | error e =>
      rw [ofText_of_refused read clean] at text
      exact refusalText_ne e literal text
  · rw [ofText_of_scanError mem error]

end Report

/-- **The report agrees with the reading.** However the text is given and whatever is
asked for, a run exits with 0 exactly if the text is a program. Then it writes the tokens,
if they are asked for, each on a line with its number, and each statement of the program
with a semicolon, and its outline below if that is asked for. Otherwise it exits with 1
and has written the tokens and nothing else. It reports an error of the scan exactly if
there is one among the tokens, with its literal, which is the one of the error of
reading if that is lexical; and the error of reading in every other case. -/
theorem report_agrees {outside : Outside Id} {o : Options} {source : String}
    (reads : Reads outside o source) :
    let report := (Report.ofOptions outside o).run
    let dumped := if o.tokens then String.join ((lex source).mapIdx fun i t =>
      String.leftpad 4 ' ' (toString i) ++ ": " ++ t.text ++ "\n") else ""
    (report.exitCode = 0 ↔ ∃ statements, parse source = .ok statements) ∧
      (∀ statements, parse source = .ok statements →
        report.out = dumped ++ String.join (statements.map fun s =>
          s.text ++ ";\n" ++ if o.verbose then s.outline.indented 0 ++ "\n" else "") ∧
        report.err = "") ∧
      (∀ e, parse source = .error e →
        report.exitCode = 1 ∧ report.out = dumped ∧
        ((∀ t ∈ lex source, t.kind ≠ .error) → report.err = Report.refusalText e) ∧
        (e.cause = .lexical → report.err = Report.scanErrorText e.token.literal)) ∧
      ((∃ literal, report.err = Report.scanErrorText literal) ↔
        ∃ t ∈ lex source, t.kind = .error) ∧
      ∀ t ∈ lex source, t.kind = .error → report.err = Report.scanErrorText t.literal := by
  intro report dumped
  obtain same : report = Report.ofText o source := Report.ofOptions_of_reads reads
  have written : Report.dumped o source = dumped := by rw [Report.dumped, Report.dump_eq]
  have scanError (t : Token) (mem : t ∈ lex source) (error : t.kind = .error) :
      report.err = Report.scanErrorText t.literal := by
    rw [same, Report.ofText_of_scanError mem error]
  have located : (∃ literal, report.err = Report.scanErrorText literal) ↔
      ∃ t ∈ lex source, t.kind = .error := by
    rw [same]
    exact Report.exists_scanErrorText_iff o source
  cases read : parse source with
  | ok statements =>
    rw [Report.ofText_of_ok read, written] at same
    refine ⟨by simp [same], ?_, by simp, located, scanError⟩
    rintro _ ⟨⟩
    rw [same]
    exact ⟨rfl, rfl⟩
  | error e =>
    obtain ⟨code, out⟩ := Report.ofText_of_error read o
    rw [← same] at code out
    refine ⟨by simp [code], by simp, ?_, located, scanError⟩
    rintro _ ⟨⟩
    refine ⟨code, out.trans written, fun clean => ?_, fun lexical => ?_⟩
    · rw [same, Report.ofText_of_refused read clean]
    · obtain ⟨mem, error⟩ := mem_lex_of_lexical read lexical
      exact scanError _ mem error

def shownProgram : String := "select é;select null"

/-- What a run with both switches writes of them. -/
def shownOutput : String := String.join ([
  "   0: SELECT(\"select\")", "   1: identifier(\"é\")", "   2: semicolon(\";\")",
  "   3: SELECT(\"select\")", "   4: NULL(\"null\")", "   5: end of input(\"\")",
  "SELECT é;",
  "Select(", "    SelectStmt \x7b", "        expressions: [", "            Column(",
  "                \"é\",", "            ),", "        ],", "        table: None,",
  "        where_clause: None,", "    \x7d,", ")",
  "SELECT NULL;",
  "Select(", "    SelectStmt \x7b", "        expressions: [", "            Literal(",
  "                Null,", "            ),", "        ],", "        table: None,",
  "        where_clause: None,", "    \x7d,", ")"].map (· ++ "\n"))

/-- A text in a file that is refused at its first token, before the string that is left
open. -/
def refusedBeforeOpen : String := "from \x27a"

def shownOrRefused : Outside Id where
  file path := if path = "t.sql" then .ok refusedBeforeOpen.toUTF8 else .error .notFound
  standardInput := .ok shownProgram.toUTF8

/-- A run that shows a program, and one that is refused. -/
theorem report_agrees_shownOrRefused :
    (let o : Options := ⟨some "-", none, true, true⟩
      let report := (Report.ofOptions shownOrRefused o).run
      Reads shownOrRefused o shownProgram ∧
        parse shownProgram = .ok [.select ⟨[.column "é"], none, none⟩,
          .select ⟨[.literal .null], none, none⟩] ∧
        report.exitCode = 0 ∧ report.out = shownOutput ∧ report.err = "") ∧
    (let o : Options := ⟨none, some "t.sql", true, true⟩
      let report := (Report.ofOptions shownOrRefused o).run
      Reads shownOrRefused o refusedBeforeOpen ∧
        parse refusedBeforeOpen = .error ⟨.unsupportedStatement, ⟨.fromWord, "from"⟩, 0⟩ ∧
        report.exitCode = 1 ∧ report.out = "   0: FROM(\"from\")\n   1: error(\"\x27a\")\n" ∧
        report.err = "Error: Lexical error near \"\x27a\"\n") := by
  constructor
  · intro o report
    have reads : Reads shownOrRefused o shownProgram := .standardInput rfl (.inr rfl) rfl
    have read : parse shownProgram = .ok [.select ⟨[.column "é"], none, none⟩,
        .select ⟨[.literal .null], none, none⟩] := by decide +kernel
    obtain ⟨success, written, -⟩ := report_agrees reads
    obtain ⟨out, err⟩ := written _ read
    refine ⟨reads, read, success.mpr ⟨_, read⟩, out.trans ?_, err⟩
    decide +kernel
  · intro o report
    have reads : Reads shownOrRefused o refusedBeforeOpen := .file rfl (by simp [shownOrRefused])
    have read : parse refusedBeforeOpen =
        .error ⟨.unsupportedStatement, ⟨.fromWord, "from"⟩, 0⟩ := by decide +kernel
    have tokens : lex refusedBeforeOpen = [⟨.fromWord, "from"⟩, ⟨.error, "\x27a"⟩] := by
      decide +kernel
    obtain ⟨-, -, failed, -, scanError⟩ := report_agrees reads
    obtain ⟨code, out, -, -⟩ := failed _ read
    refine ⟨reads, read, code, out.trans ?_, ?_⟩
    · decide +kernel
    · refine (scanError ⟨.error, "\x27a"⟩ (by simp [tokens]) rfl).trans ?_
      decide +kernel

end CommandLine

end SelectLang
