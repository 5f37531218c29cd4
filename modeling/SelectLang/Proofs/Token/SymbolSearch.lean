import SelectLang.Proofs.Token.ByteScan
import SelectLang.Token.SymbolSearch

/-!
# The longest symbol comes first

Whatever the table is, the search by offsets asks for no piece of the text at a wrong
offset, and it finds the longest entry that the text begins with. The scan passes the
characters of that entry and makes a lexeme of them; where no entry is ahead it makes an
error of one character and stops. The table of the language is a case of this, and with
it the search always finds a symbol, since it is begun only where one is ahead.

* `SymbolTable.Within`: the texts of a table are not empty and not too long.
* `SymbolTable.Longest`: the longest entry that a text begins with.
* `ByteScan.behind`: the scan that has made a lexeme of what was ahead.

Results:
* `candidate?_eq`: a piece that is asked for by an offset has the characters that it
  should have, as far as there are as many.
* `search?_eq`: the search by offsets is the search by characters.
* `Longest.unique`: there is one longest entry.
* `Stands.after_taking`: passing the characters of a symbol, by induction.
* `lookUp_passes_longest`: all this from the place on where a symbol is looked up.
-/
namespace SelectLang

open SelectLang.Token

open String (utf8Len)

/-! ## Pieces of a text by their offsets -/

theorem beginnings_getElem? (text : List Char) (before number : Nat) :
    (beginnings before text)[number]? =
      if number < text.length then some (before + utf8Len (text.take number)) else none := by
  induction text generalizing before number with
  | nil => simp [beginnings]
  | cons c rest ih =>
    cases number with
    | zero => simp [beginnings]
    | succ number => simp [beginnings, ih, Nat.add_assoc, Nat.add_comm c.utf8Size]

theorem offsetBehind_eq (text : List Char) (number : Nat) :
    offsetBehind text number = utf8Len (text.take number) := by
  rw [offsetBehind, beginnings_getElem?]
  split
  · simp
  · next short =>
    rw [List.take_of_length_le (Nat.le_of_not_lt short), ← String.utf8ByteSize_ofList]
    rfl

theorem candidate?_eq (text : List Char) (number : Nat) :
    candidate? text number = some (text.take number) := by
  have parts : splitAt? text (offsetBehind text number) =
      some (text.take number, text.drop number) :=
    splitAt?_eq_some_iff.mpr ⟨(List.take_append_drop ..).symm, offsetBehind_eq text number⟩
  rw [candidate?, parts, Option.map_some]

/-! ## The search -/

namespace SymbolTable

variable {table : SymbolTable} {limit : Nat} {text : List Char}

theorem attempt?_eq (table : SymbolTable) (text : List Char) (length : Nat) :
    table.attempt? text length =
      some (if length ≤ text.length then
        (table.lookup (String.ofList (text.take length))).map fun kind => (length, kind)
      else none) := by
  rw [attempt?, candidate?_eq, Option.map_some, List.length_take]
  split
  · next other => rw [if_neg (by omega)]
  · next same => rw [if_pos (by omega)]

theorem search?_eq (table : SymbolTable) (text : List Char) (limit : Nat) :
    table.search? text limit = some (table.longest? limit text) := by
  induction limit with
  | zero => rfl
  | succ limit ih =>
    rw [search?, attempt?_eq, Option.bind_some, longest?]
    by_cases fits : limit < text.length
    · rw [if_pos (Nat.succ_le_of_lt fits), if_pos fits]
      cases table.lookup (String.ofList (text.take (limit + 1))) with
      | some kind => rfl
      | none => exact ih
    · rw [if_neg (by omega), if_neg fits]
      exact ih

/-- The texts of the table are not empty and have at most so many characters. -/
def Within (table : SymbolTable) (limit : Nat) : Prop :=
  ∀ entry ∈ table, entry.1 ≠ "" ∧ entry.1.length ≤ limit

instance (table : SymbolTable) (limit : Nat) : Decidable (table.Within limit) :=
  inferInstanceAs (Decidable (∀ entry ∈ table, entry.1 ≠ "" ∧ entry.1.length ≤ limit))

/-- The longest entry of the table that the text begins with, and its kind. -/
structure Longest (table : SymbolTable) (text : List Char) (key : String) (kind : Kind) :
    Prop where
  entry : table.lookup key = some kind
  ahead : key.toList <+: text
  longest : ∀ other ∈ table, other.1.toList <+: text → other.1.length ≤ key.length

/-- The text of an entry that is ahead is as many characters of the text as it has. -/
theorem eq_take {key : String} (ahead : key.toList <+: text) :
    key = String.ofList (text.take key.length) ∧ key.length ≤ text.length := by
  rw [← String.length_toList]
  exact ⟨by rw [← List.prefix_iff_eq_take.mp ahead, String.ofList_toList], ahead.length_le⟩

theorem Longest.unique {key key' : String} {kind kind' : Kind}
    (h : table.Longest text key kind) (h' : table.Longest text key' kind') :
    key = key' ∧ kind = kind' := by
  have same : key.length = key'.length :=
    Nat.le_antisymm (h'.longest _ (Kind.mem_of_lookup h.entry) h.ahead)
      (h.longest _ (Kind.mem_of_lookup h'.entry) h'.ahead)
  obtain rfl : key = key' := by rw [(eq_take h.ahead).1, same, ← (eq_take h'.ahead).1]
  exact ⟨rfl, Option.some.inj (h.entry.symm.trans h'.entry)⟩

/-- What the search finds is the longest entry, and it has as many characters as it says. -/
theorem longest_of_longest? (within : table.Within limit) {length : Nat} {kind : Kind}
    (found : table.longest? limit text = some (length, kind)) :
    ∃ key, table.Longest text key kind ∧ key.length = length := by
  obtain ⟨-, -, fits, entry, longer⟩ := longest?_eq_some found
  have size : (String.ofList (text.take length)).length = length := by
    rw [String.length_ofList, List.length_take_of_le fits]
  refine ⟨_, ⟨entry, ?_, fun other mem ahead => ?_⟩, size⟩
  · rw [String.toList_ofList]
    exact List.take_prefix ..
  · rw [size]
    by_contra less
    obtain ⟨e, le⟩ := eq_take ahead
    have missed := longer other.1.length (Nat.lt_of_not_le less) (within other mem).2 le
    exact lookup_ne_none mem (e ▸ missed)

theorem not_ahead_of_longest? (within : table.Within limit)
    (missed : table.longest? limit text = none) : ∀ entry ∈ table, ¬ entry.1.toList <+: text := by
  intro entry mem ahead
  obtain ⟨filled, le⟩ := within entry mem
  obtain ⟨e, fits⟩ := eq_take ahead
  have positive : 0 < entry.1.length :=
    Nat.pos_of_ne_zero fun zero => filled (String.length_eq_zero_iff.mp zero)
  exact lookup_ne_none mem (e ▸ longest?_eq_none missed _ positive le fits)

end SymbolTable

/-! ## What the scan makes of it -/

namespace ByteScan

variable {s : ByteScan} {before pending left : List Char}

/-- The scan behind one more lexeme, of what was ahead. -/
def behind (s : ByteScan) (token : Token) (width : Nat) (control : Control) : ByteScan :=
  { s with
    lexemes := ⟨token, s.start⟩ :: s.lexemes
    start := s.start + token.literal.utf8ByteSize
    current := s.start + token.literal.utf8ByteSize
    width
    control }

theorem Stands.doing (h : s.Stands before pending left) (control : Control) :
    Stands { s with control } before pending left :=
  ⟨h.source, h.start, h.current⟩

theorem Stands.emit_eq_behind (h : s.Stands before pending left) (kind : Kind) (next : Control) :
    s.emit (fun _ => kind) next = s.behind ⟨kind, String.ofList pending⟩ s.width next := by
  rw [h.emit, behind, ← h.current_eq]

theorem Stands.lookUp (h : s.Stands before pending left) (table : SymbolTable) (limit : Nat) :
    s.lookUp table limit =
      { s with control := .doing (match table.longest? limit left with
        | some (length, kind) => .taking length kind
        | none => .passing .unrecognizedSymbol) } := by
  rw [ByteScan.lookUp, h.parts, Option.bind_some, SymbolTable.search?_eq]
  cases table.longest? limit left <;> rfl

/-- The characters of a symbol are passed one at a time. -/
theorem Stands.after_taking {piece : List Char} {kind : Kind}
    (h : s.Stands before pending (piece ++ left))
    (control : s.control = .doing (.taking piece.length kind)) :
    ∃ width, s.after piece.length =
      { s with
        current := utf8Len (before ++ (pending ++ piece)), width
        control := .doing (.taking 0 kind) } := by
  -- By induction on what is left of the symbol, with one more character passed each time.
  induction piece generalizing s pending with
  | nil =>
    refine ⟨s.width, ?_⟩
    rw [List.append_nil, ← h.current, ← List.length_nil, ← control]
    rfl
  | cons c rest ih =>
    have step : s.step =
        { s with
          current := utf8Len (before ++ (pending ++ [c])), width := c.utf8Size
          control := .doing (.taking rest.length kind) } := by
      rw [step_doing control h.parts, List.length_cons, Task.act, perform, h.current]
      simp [Nat.add_assoc]
    have stands : s.step.Stands before (pending ++ [c]) (rest ++ left) := by
      rw [step]
      exact h.moved (by simp) ..
    obtain ⟨width, passed⟩ := ih stands (by rw [step])
    refine ⟨width, ?_⟩
    rw [List.length_cons, Nat.add_comm, after_add, after, after, passed, step]
    simp

theorem Stands.after_taken {kind : Kind} (h : s.Stands before pending left)
    (control : s.control = .doing (.taking 0 kind)) :
    s.after 2 = s.behind ⟨kind, String.ofList pending⟩ s.width (.doing .text) := by
  have kept : s.step = { s with control := .doing (.keep kind) } := step_doing control h.parts
  have stands : s.step.Stands before pending left := kept ▸ h.doing _
  have control' : s.step.control = .doing (.keep kind) := by rw [kept]
  have made : s.step.step = s.step.emit (fun _ => kind) (.doing .text) :=
    step_doing control' stands.parts
  rw [after, after, after, made, stands.emit_eq_behind, kept]
  rfl

/-- A symbol that is found is passed, and becomes a lexeme. -/
theorem Stands.after_lookUp_some {table : SymbolTable} {limit : Nat} {key : String} {kind : Kind}
    (h : s.Stands before [] left) (ahead : key.toList <+: left)
    (found : table.longest? limit left = some (key.length, kind)) :
    ∃ width, (s.lookUp table limit).after (key.length + 2) =
      s.behind ⟨kind, key⟩ width (.doing .text) := by
  obtain ⟨rest, rfl⟩ := ahead
  have looked := h.lookUp table limit
  rw [found] at looked
  generalize s.lookUp table limit = begun at looked
  have stands : begun.Stands before [] (key.toList ++ rest) := looked ▸ h.doing _
  have control : begun.control = .doing (.taking key.toList.length kind) := by
    rw [looked, String.length_toList]
  obtain ⟨width, passed⟩ := stands.after_taking control
  have taken : (begun.after key.toList.length).Stands before key.toList rest := by
    rw [passed]
    exact stands.moved (by simp) ..
  refine ⟨width, ?_⟩
  rw [← String.length_toList, after_add, taken.after_taken (by rw [passed]), passed, looked,
    String.ofList_toList]
  rfl

/-- Where no symbol is found one character becomes an error, and the scan stops. -/
theorem Stands.after_lookUp_none {table : SymbolTable} {limit : Nat} {c : Char} {rest : List Char}
    (h : s.Stands before [] (c :: rest)) (missed : table.longest? limit (c :: rest) = none) :
    (s.lookUp table limit).after 2 =
      s.behind ⟨.error, String.singleton c⟩ c.utf8Size (.stopped (some .unrecognizedSymbol)) := by
  have looked := h.lookUp table limit
  rw [missed] at looked
  generalize s.lookUp table limit = begun at looked
  have stands : begun.Stands before [] (c :: rest) := looked ▸ h.doing _
  have control : begun.control = .doing (.passing .unrecognizedSymbol) := by rw [looked]
  have passed : begun.step =
      { begun with
        current := utf8Len (before ++ [c]), width := c.utf8Size
        control := .doing (.refuse .unrecognizedSymbol) } := by
    rw [step_doing control stands.parts, Task.act, perform, stands.current]
    simp
  have taken : begun.step.Stands before [c] rest := by
    rw [passed]
    exact stands.moved (by simp) ..
  have control' : begun.step.control = .doing (.refuse .unrecognizedSymbol) := by rw [passed]
  have made : begun.step.step =
      begun.step.emit (fun _ => .error) (.stopped (some .unrecognizedSymbol)) :=
    step_doing control' taken.parts
  rw [after, after, after, made, taken.emit_eq_behind, passed, looked, String.singleton_eq_ofList]
  rfl

/-! ## The table of the language -/

/-- Where a scan comes to a symbol, the table of the language has one for it. -/
theorem Sound.symbol_found (h : s.Sound) (symbol : s.control = .doing .symbol) :
    (∃ before c rest, s.Stands before [] (c :: rest) ∧ symbols.isStart c) ∧
      s.step = s.lookUp symbols maxSymbolLength ∧
      ∃ kind, s.step.control = .doing (.taking 1 kind) := by
  cases h with
  | stopped control _ _ => rw [control] at symbol; cases symbol
  | doing control stands ready _ =>
    cases control.symm.trans symbol
    cases ready with
    | symbol ahead =>
    obtain ⟨kind, found⟩ := ahead.exists_longest
    have step := step_doing control stands.parts
    have looked := stands.lookUp symbols maxSymbolLength
    rw [Task.act, found, perform] at step
    rw [found] at looked
    cases ahead with
    | mk start _ =>
    exact ⟨⟨_, _, _, stands, start⟩, step.trans looked.symm, kind, by rw [step]⟩

end ByteScan

open ByteScan SymbolTable in
/-- **The longest symbol comes first, in any table.** Let no text of a table be empty or
have more characters than are tried, and let a scan look a symbol up where some text is
left. It passes the longest entry that the text begins with and makes a lexeme of it, of
the kind of that entry; or no entry is ahead, and it makes an error of one character and
stops. A scan of the language does this with nine texts of one character. It looks a
symbol up only where one begins, so it always finds one, and never stops for want of it. -/
theorem lookUp_passes_longest :
    (∀ (table : SymbolTable) (limit : Nat), table.Within limit →
      ∀ (s : ByteScan) (before : List Char) (c : Char) (rest : List Char),
        s.Stands before [] (c :: rest) →
        (∃ key kind width, table.Longest (c :: rest) key kind ∧
          (s.lookUp table limit).after (key.length + 2) =
            s.behind ⟨kind, key⟩ width (.doing .text)) ∨
        (∀ entry ∈ table, ¬ entry.1.toList <+: c :: rest) ∧
          (s.lookUp table limit).after 2 = s.behind ⟨.error, String.singleton c⟩ c.utf8Size
            (.stopped (some .unrecognizedSymbol))) ∧
    symbols.length = 9 ∧ maxSymbolLength = 1 ∧ symbols.Within maxSymbolLength ∧
    ∀ source n, let s := (ByteScan.ofText source).after n
      (s.control = .doing .symbol →
        (∃ before c rest, s.Stands before [] (c :: rest) ∧ symbols.isStart c) ∧
        s.step = s.lookUp symbols maxSymbolLength ∧
        ∃ kind, s.step.control = .doing (.taking 1 kind)) ∧
      s.control ≠ .stopped (some .unrecognizedSymbol) := by
  refine ⟨fun table limit within s before c rest stands => ?_, by decide, by decide, by decide,
    fun source n => ?_⟩
  · cases found : table.longest? limit (c :: rest) with
    | some symbol =>
      obtain ⟨length, kind⟩ := symbol
      obtain ⟨key, longest, rfl⟩ := longest_of_longest? within found
      obtain ⟨width, passed⟩ := stands.after_lookUp_some longest.ahead found
      exact .inl ⟨key, kind, width, longest, passed⟩
    | none => exact .inr ⟨not_ahead_of_longest? within found, stands.after_lookUp_none found⟩
  · obtain ⟨sound, same⟩ := (sound_ofText source).after n
    refine ⟨sound.symbol_found, fun stopped => ?_⟩
    have ends := sound.ofText_of_stopped stopped
    rw [same] at ends
    have fault : (Lexing.ofText source).fault ≠ some .unrecognizedSymbol :=
      ((lexes_lex source).finish_after 0 []).2
    exact fault (congrArg Lexing.fault ends)

/-- Symbols of several characters, some of them of several bytes. -/
def arrows : SymbolTable :=
  [("≤", .symbol), ("≤=", .comma), ("≤=>", .semicolon), ("→>>", .symbol)]

open ByteScan in
theorem lookUp_passes_longest_arrows :
    arrows.Within 3 ∧
      (∃ width, ((ofText "≤=1").lookUp arrows 3).after 4 =
        (ofText "≤=1").behind ⟨.comma, "≤="⟩ width (.doing .text)) ∧
      ((ofText "→>").lookUp arrows 3).after 2 =
        (ofText "→>").behind ⟨.error, "→"⟩ 3 (.stopped (some .unrecognizedSymbol)) ∧
      ((ofText ",").after 1).control = .doing .symbol ∧
      ∃ kind, ((ofText ",").after 2).control = .doing (.taking 1 kind) := by
  have within : arrows.Within 3 := by decide
  have symbol : ((ofText ",").after 1).control = .doing .symbol := by decide +kernel
  refine ⟨within, ?_, ?_, symbol,
    ((lookUp_passes_longest.2.2.2.2 "," 1).1 symbol).2.2⟩
  · have two : arrows.Longest ['≤', '=', '1'] "≤=" .comma := ⟨by decide, by decide, by decide⟩
    rcases lookUp_passes_longest.1 arrows 3 within (ofText "≤=1") [] '≤' ['=', '1'] ⟨rfl, rfl, rfl⟩
      with ⟨key, kind, width, longest, passed⟩ | ⟨none, -⟩
    · obtain ⟨rfl, rfl⟩ := two.unique longest
      exact ⟨width, passed⟩
    · exact absurd two.ahead (none ("≤=", .comma) (by decide))
  · have none : ∀ entry ∈ arrows, ¬ entry.1.toList <+: ['→', '>'] := by decide
    rcases lookUp_passes_longest.1 arrows 3 within (ofText "→>") [] '→' ['>'] ⟨rfl, rfl, rfl⟩
      with ⟨key, kind, width, longest, -⟩ | ⟨-, passed⟩
    · exact absurd longest.ahead (none _ (Kind.mem_of_lookup longest.entry))
    · exact passed

end SelectLang
