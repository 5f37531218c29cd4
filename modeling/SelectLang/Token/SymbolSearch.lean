import SelectLang.Token.ByteScan

/-!
# Symbols by offsets

Where a scan by offsets comes to a symbol, the lengths are tried from the longest one
down. A length is a number of characters, but a piece of the text is asked for by the
number of its bytes: that is where the character behind the piece begins, or the end of
the text. A piece that runs into the end may have too few characters, and is no symbol
then. The table and the length of its longest entry are parameters.

* `beginnings`, `offsetBehind`: where characters begin, and where so many of them end.
* `candidate?`: the piece of so many characters, as the offset gives it.
* `SymbolTable.attempt?`: one length.
* `SymbolTable.search?`: one length after the other.
* `ByteScan.lookUp`: the step of a scan that looks the symbol up.
-/
namespace SelectLang

/-- The offsets at which the characters begin, with so many bytes before them. -/
def beginnings : Nat → List Char → List Nat
  | _, [] => []
  | before, c :: rest => before :: beginnings (before + c.utf8Size) rest

/-- The offset at which the character behind so many begins, or that of the end. -/
def offsetBehind (text : List Char) (number : Nat) : Nat :=
  ((beginnings 0 text)[number]?).getD (String.ofList text).utf8ByteSize

/-- The piece of the text in front of the character behind so many. There is none if the
offset is not between two characters. -/
def candidate? (text : List Char) (number : Nat) : Option (List Char) :=
  (splitAt? text (offsetBehind text number)).map Prod.fst

namespace SymbolTable

/-- The length and the kind of the symbol of that length, if there is one. There is no
answer if the piece is asked for at a wrong offset. -/
def attempt? (table : SymbolTable) (text : List Char) (length : Nat) :
    Option (Option (Nat × Token.Kind)) :=
  (candidate? text length).map fun candidate =>
    if candidate.length ≠ length then none
    else (table.lookup (String.ofList candidate)).map fun kind => (length, kind)

/-- The first symbol that is found from a length on downwards. -/
def search? (table : SymbolTable) (text : List Char) : Nat → Option (Option (Nat × Token.Kind))
  | 0 => some none
  | limit + 1 =>
    (table.attempt? text (limit + 1)).bind fun found =>
      match found with
      | some symbol => some (some symbol)
      | none => table.search? text limit

end SymbolTable

/-- Looks up the symbol that is ahead. Behind that, its characters are passed one at a
time; if there is none, one character is passed. -/
def ByteScan.lookUp (s : ByteScan) (table : SymbolTable) (limit : Nat) : ByteScan :=
  match (splitAt? s.source.toList s.current).bind fun parts => table.search? parts.2 limit with
  | some (some (length, kind)) => { s with control := .doing (.taking length kind) }
  | some none => { s with control := .doing (.passing .unrecognizedSymbol) }
  | none => { s with control := .lost }

end SelectLang
