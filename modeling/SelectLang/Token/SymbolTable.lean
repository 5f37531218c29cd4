import SelectLang.Token.Basic

/-!
# Symbols

Symbols are read by a table of texts with their kinds: the longest entry that
the text starts with is the symbol. The language has nine symbols of one
character; the search is for tables of any length.

Results:
* `longest?_eq_some`, `longest?_eq_none`: the search finds the longest entry
  that the text starts with, and nothing exactly if there is none.
* `isStart_iff`: a character starts an entry exactly if some entry has it in
  front.
-/
namespace SelectLang

abbrev SymbolTable := List (String × Token.Kind)

namespace SymbolTable

/-- Whether some symbol of the table starts with the character. -/
def isStart (table : SymbolTable) (c : Char) : Bool :=
  table.any fun entry => entry.1.toList.head? == some c

/-- The length and the kind of the longest symbol, of at most `limit`
characters, that the text starts with. -/
def longest? (table : SymbolTable) : Nat → List Char → Option (Nat × Token.Kind)
  | 0, _ => none
  | limit + 1, text =>
    if limit < text.length then
      match table.lookup (String.ofList (text.take (limit + 1))) with
      | some kind => some (limit + 1, kind)
      | none => longest? table limit text
    else longest? table limit text

/-- The piece that is cut off a text, its kind, and the rest of the text. -/
structure Cut where
  kind : Token.Kind
  piece : List Char
  rest : List Char
  deriving DecidableEq

/-- Cuts the longest symbol off the front of the text. If no symbol fits, one
character is cut off as an error. -/
def cut (table : SymbolTable) (limit : Nat) (text : List Char) : Cut :=
  match table.longest? limit text with
  | some (length, kind) => ⟨kind, text.take length, text.drop length⟩
  | none => ⟨.error, text.take 1, text.drop 1⟩

theorem isStart_iff (table : SymbolTable) (c : Char) :
    table.isStart c ↔ ∃ entry ∈ table, ∃ rest, entry.1.toList = c :: rest := by
  simp only [isStart, List.any_eq_true, beq_iff_eq]
  constructor
  · rintro ⟨entry, mem, h⟩
    obtain ⟨rest, h⟩ := List.head?_eq_some_iff.mp h
    exact ⟨entry, mem, rest, h⟩
  · rintro ⟨entry, mem, rest, h⟩
    exact ⟨entry, mem, by simp [h]⟩

theorem lookup_ne_none {table : SymbolTable} {entry : String × Token.Kind} (mem : entry ∈ table) :
    table.lookup entry.1 ≠ none := fun missed => by
  simpa using List.lookup_eq_none_iff.mp missed entry mem

theorem longest?_eq_some {table : SymbolTable} {limit length : Nat} {text : List Char}
    {kind : Token.Kind} (h : table.longest? limit text = some (length, kind)) :
    0 < length ∧ length ≤ limit ∧ length ≤ text.length ∧
      table.lookup (String.ofList (text.take length)) = some kind ∧
      ∀ n, length < n → n ≤ limit → n ≤ text.length →
        table.lookup (String.ofList (text.take n)) = none := by
  induction limit with
  | zero => cases h
  | succ limit ih =>
    rw [longest?] at h
    split at h
    · next fits =>
      split at h
      · next found =>
        cases h
        exact ⟨by omega, by omega, by omega, found, fun n h1 h2 _ => by omega⟩
      · next missed =>
        obtain ⟨h1, h2, h3, h4, h5⟩ := ih h
        refine ⟨h1, by omega, h3, h4, fun n hn hl ht => ?_⟩
        rcases Nat.lt_or_ge limit n with hlt | hge
        · rw [show n = limit + 1 by omega]; exact missed
        · exact h5 n hn hge ht
    · next short =>
      obtain ⟨h1, h2, h3, h4, h5⟩ := ih h
      exact ⟨h1, by omega, h3, h4, fun n hn hl ht => h5 n hn (by omega) ht⟩

theorem longest?_eq_none {table : SymbolTable} {limit : Nat} {text : List Char}
    (h : table.longest? limit text = none) :
    ∀ n, 0 < n → n ≤ limit → n ≤ text.length →
      table.lookup (String.ofList (text.take n)) = none := by
  induction limit with
  | zero => intro n h1 h2; omega
  | succ limit ih =>
    rw [longest?] at h
    split at h
    · split at h
      · cases h
      · next missed =>
        intro n h1 h2 h3
        rcases Nat.lt_or_ge limit n with hlt | hge
        · rw [show n = limit + 1 by omega]; exact missed
        · exact ih h n h1 hge h3
    · intro n h1 h2 h3
      exact ih h n h1 (by omega) h3

end SymbolTable

/-- The symbols of the language. Only the two that statements are built on have
kinds of their own. -/
def symbols : SymbolTable := [
  (";", .semicolon), (",", .comma), ("(", .symbol), (")", .symbol), ("=", .symbol),
  ("*", .symbol), ("+", .symbol), ("-", .symbol), ("/", .symbol)]

def maxSymbolLength : Nat := 1

end SelectLang
