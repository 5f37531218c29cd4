import SelectLang.CommandLine.Run
import SelectLang.Proofs.Text.Escaped
import Mathlib

/-!
# The dump of tokens loses nothing

A dump has a line for each token: its number, the name of its kind, and its literal in
escaped form. An escaped literal has no line end in it, so the dump is divided into its
lines at the line ends; no name of a kind has a bracket in it, so a line is divided into
name and literal at the first one; and the two determine the token.

* `Report.numbered index`: what stands in front of a token in its line.
* `Report.dumpFrom n tokens`: the lines of tokens that are counted from a number on.

Results:
* `Token.text_inj`, `Token.text_no_lineEnd`: a token is determined by its text, which
  is one line.
* `toList_dumpFrom_cons`: a dump is divided at its first line end.
* `dumpFrom_inj`, `countP_dumpFrom`: tokens are determined by their lines, and there are
  as many line ends as tokens.
* `dump_eq_iff`: the same for a dump.
-/
namespace SelectLang

namespace Token

theorem Kind.name_inj {a b : Kind} (h : a.name = b.name) : a = b := by
  have table : ∀ a ∈ Kind.all, ∀ b ∈ Kind.all, a.name = b.name → a = b := by decide +kernel
  exact table a (Kind.mem_all a) b (Kind.mem_all b) h

theorem Kind.name_plain (kind : Kind) :
    '(' ∉ kind.name.toList ∧ ∀ c ∈ kind.name.toList, isLineEnd c = false := by
  have table : ∀ kind ∈ Kind.all,
      '(' ∉ kind.name.toList ∧ kind.name.toList.all (fun c => !isLineEnd c) := by decide
  simpa using table kind (Kind.mem_all kind)

theorem toList_text (t : Token) : t.text.toList = t.kind.name.toList ++
    '(' :: '\x22' :: (Escaped.escapeChars t.literal.toList ++ ['\x22', ')']) := by
  simp [text, Escaped.escape]

theorem text_inj {t u : Token} (h : t.text = u.text) : t = u := by
  have lists := congrArg String.toList h
  rw [toList_text, toList_text] at lists
  obtain ⟨name, rest⟩ :=
    eq_of_append_separator t.kind.name_plain.1 u.kind.name_plain.1 lists
  obtain ⟨chars, -⟩ := Escaped.escapeChars_append_inj (List.cons.inj rest).2
  have kind : t.kind = u.kind := Kind.name_inj (String.toList_inj.mp name)
  have literal : t.literal = u.literal := String.toList_inj.mp chars
  cases t
  cases u
  cases kind
  cases literal
  rfl

theorem text_no_lineEnd (t : Token) : ∀ c ∈ t.text.toList, isLineEnd c = false := by
  intro c hc
  rw [toList_text] at hc
  simp only [List.mem_append, List.mem_cons, List.not_mem_nil, or_false] at hc
  rcases hc with name | rfl | rfl | literal | rfl | rfl
  · exact t.kind.name_plain.2 c name
  · rfl
  · rfl
  · exact Escaped.escapeChars_no_lineEnd _ c literal
  · rfl
  · rfl

end Token

namespace CommandLine.Report

/-! ## Lines -/

/-- What stands in front of a token in its line. -/
def numbered (index : Nat) : List Char := (aligned index).toList ++ [':', ' ']

theorem numbered_no_lineEnd (index : Nat) : ∀ c ∈ numbered index, isLineEnd c = false := by
  intro c hc
  simp only [numbered, aligned, String.toList_ofList, List.mem_append, List.mem_cons,
    List.not_mem_nil, or_false] at hc
  rcases hc with (blank | digit) | rfl | rfl
  · rw [List.eq_of_mem_replicate blank]
    rfl
  · have digit := Nat.isDigit_of_mem_toDigits (by decide) (by decide) digit
    have feed : c ≠ '\n' := by rintro rfl; cases digit
    have carriage : c ≠ '\r' := by rintro rfl; cases digit
    simp [isLineEnd, feed, carriage]
  · rfl
  · rfl

/-- A line of the dump ends with a line feed. -/
theorem toList_dumpLine (index : Nat) (t : Token) :
    (dumpLine index t).toList = numbered index ++ t.text.toList ++ ['\n'] := by
  simp [dumpLine, numbered]

theorem line_no_lineEnd (index : Nat) (t : Token) :
    ∀ c ∈ numbered index ++ t.text.toList, isLineEnd c = false := by
  intro c hc
  rcases List.mem_append.mp hc with number | token
  · exact numbered_no_lineEnd index c number
  · exact t.text_no_lineEnd c token

/-! ## Dumps -/

def dumpFrom (n : Nat) (tokens : List Token) : String :=
  String.join (tokens.mapIdx fun index t => dumpLine (n + index) t)

theorem dump_eq_dumpFrom (tokens : List Token) : dump tokens = dumpFrom 0 tokens := by
  simp [dump, dumpFrom]

theorem toList_dumpFrom_nil (n : Nat) : (dumpFrom n []).toList = [] := by
  simp [dumpFrom]

theorem toList_dumpFrom_cons (n : Nat) (t : Token) (tokens : List Token) :
    (dumpFrom n (t :: tokens)).toList =
      (dumpLine n t).toList ++ (dumpFrom (n + 1) tokens).toList := by
  have shift : (fun index => dumpLine (n + (index + 1))) = fun index => dumpLine (n + 1 + index) := by
    funext index
    rw [Nat.add_right_comm, Nat.add_assoc]
  rw [dumpFrom, List.mapIdx_cons, String.join_cons, String.toList_append, Nat.add_zero, shift,
    dumpFrom]

theorem dumpFrom_inj {n : Nat} {a b : List Token} (h : dumpFrom n a = dumpFrom n b) : a = b := by
  have lists := congrArg String.toList h
  clear h
  induction a generalizing n b with
  | nil =>
    cases b with
    | nil => rfl
    | cons u b => simp [toList_dumpFrom_nil, toList_dumpFrom_cons, toList_dumpLine] at lists
  | cons t a ih =>
    cases b with
    | nil => simp [toList_dumpFrom_nil, toList_dumpFrom_cons, toList_dumpLine] at lists
    | cons u b =>
      have no_feed (v : Token) : '\n' ∉ numbered n ++ v.text.toList := fun mem =>
        absurd (line_no_lineEnd n v _ mem) (by decide)
      have divided (v : Token) (rest : List Char) : (dumpLine n v).toList ++ rest =
          numbered n ++ v.text.toList ++ '\n' :: rest := by
        rw [toList_dumpLine, List.append_assoc, List.singleton_append]
      rw [toList_dumpFrom_cons, toList_dumpFrom_cons, divided, divided] at lists
      obtain ⟨line, rest⟩ := eq_of_append_separator (no_feed t) (no_feed u) lists
      have text := String.toList_inj.mp (List.append_cancel_left line)
      rw [Token.text_inj text, ih rest]

/-- The one line end in a line is its last character. -/
theorem countP_dumpLine (index : Nat) (t : Token) :
    (dumpLine index t).toList.countP isLineEnd = 1 ∧
      (dumpLine index t).toList.getLast? = some '\n' := by
  have line : (numbered index ++ t.text.toList).countP isLineEnd = 0 :=
    List.countP_eq_zero.mpr fun c hc => by simp [line_no_lineEnd index t c hc]
  constructor
  · rw [toList_dumpLine, List.countP_append, line, List.countP_singleton, if_pos (by decide)]
  · rw [toList_dumpLine, List.getLast?_concat]

theorem countP_dumpFrom (n : Nat) (tokens : List Token) :
    (dumpFrom n tokens).toList.countP isLineEnd = tokens.length := by
  induction tokens generalizing n with
  | nil => simp [toList_dumpFrom_nil]
  | cons t tokens ih =>
    rw [toList_dumpFrom_cons, List.countP_append, (countP_dumpLine n t).1, ih, List.length_cons,
      Nat.add_comm]

/-- **A dump loses nothing.** Two dumps are the same only if they are of the same tokens,
whatever their kinds and literals are; each line has one line end, which is its last
character, and so a dump has as many line ends as it has tokens. -/
theorem dump_eq_iff :
    (∀ a b, dump a = dump b ↔ a = b) ∧
      (∀ index t, (dumpLine index t).toList.countP isLineEnd = 1 ∧
        (dumpLine index t).toList.getLast? = some '\n') ∧
      ∀ tokens, (dump tokens).toList.countP isLineEnd = tokens.length := by
  refine ⟨fun a b => ⟨fun h => ?_, fun h => h ▸ rfl⟩, countP_dumpLine, fun tokens => ?_⟩
  · rw [dump_eq_dumpFrom, dump_eq_dumpFrom] at h
    exact dumpFrom_inj h
  · rw [dump_eq_dumpFrom, countP_dumpFrom]

/-- A literal that looks like the end of its line and the beginning of another is shown in
one line. -/
example : dump [⟨.stringLiteral, "\x27\x22)\n   1: \x27"⟩, Token.atEnd] =
    "   0: string literal(\"\x27\\\")\\n   1: \x27\")\n   1: end of input(\"\")\n" := by
  decide +kernel

end CommandLine.Report

end SelectLang
