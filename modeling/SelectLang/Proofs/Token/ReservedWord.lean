import SelectLang.Proofs.Unicode.AsciiUpperCase
import SelectLang.Token.ReservedWord
import Mathlib

/-!
# Which texts are reserved

A word is looked up by its full upper case, which may be longer than the word. The
keys are made of capital letters of ASCII, and no expansion of a character fits into
one of them: not even `ST`, which two ligatures expand to. So the reserved texts are
the spellings of the keys in letters of ASCII of either case, with the dotless i for
an `I` and the long s for an `S`.

Results:
* `isUpper_of_mem_table`, `apart_of_mem_table`: of what the keys are made.
* `lookup_table_eq_some_iff`: each key stands in the table once.
* `find?_iff_plainUpper`: which texts have which kind.
-/
namespace SelectLang.ReservedWord

open SelectLang.Unicode

/-! ## The keys -/

theorem isUpper_of_mem_table {key : String} {kind : Token.Kind} (h : (key, kind) ∈ table) :
    ∀ d ∈ key.toList, d.isUpper := by
  have keys : ∀ entry ∈ table, entry.1.toList.all Char.isUpper := by decide
  exact List.all_eq_true.mp (keys _ h)

/-- No expansion of a character is a part of a key. -/
theorem apart_of_mem_table {key : String} {kind : Token.Kind} (h : (key, kind) ∈ table) :
    ∀ e ∈ caseExpansions, ¬ e.2.map Char.ofNat <:+: key.toList := by
  have keys : ∀ entry ∈ table, ∀ e ∈ caseExpansions,
      ¬ e.2.map Char.ofNat <:+: entry.1.toList := by decide +kernel
  exact keys _ h

/-- The look-up finds every entry, since each key stands in the table once. -/
theorem lookup_table_eq_some_iff {key : String} {kind : Token.Kind} :
    table.lookup key = some kind ↔ (key, kind) ∈ table := by
  have once : ∀ entry ∈ table, table.lookup entry.1 = some entry.2 := by decide
  exact ⟨Token.Kind.mem_of_lookup, once _⟩

/-! ## The texts -/

/-- The upper case of a text is a key exactly if its plain upper case is that key. -/
theorem upperCase_mem_table_iff {text : String} {kind : Token.Kind} :
    (upperCase text, kind) ∈ table ↔ (text.map plainUpper, kind) ∈ table := by
  constructor
  · intro mem
    have ascii : ∀ d ∈ (upperCase text).toList, d.toNat < 128 := by
      intro d hd
      have := isAlpha_bounds (by rw [Char.isAlpha, isUpper_of_mem_table mem d hd, Bool.true_or])
      omega
    have plain := map_plainUpper_of_upperCase rfl ascii (apart_of_mem_table mem)
    rw [← String.toList_map] at plain
    rwa [String.toList_inj.mp plain]
  · intro mem
    have capital := isUpper_of_mem_table mem
    rw [String.toList_map] at capital
    rwa [upperCase_map_plainUpper capital]

/-- **Reserved texts.** A text is reserved, with some kind, exactly if it becomes a key
of that kind when each dotless i is made an `I`, each long s an `S` and each small
letter of ASCII a capital. So it has no other characters than these three sorts, and
each has one character for its upper case, none of them two or three. -/
theorem find?_iff_plainUpper (text : String) (kind : Token.Kind) :
    (find? text = some kind ↔ (text.map plainUpper, kind) ∈ table) ∧
      (find? text = some kind → ∀ c ∈ text.toList,
        (c.isAlpha ∨ c = 'ı' ∨ c = 'ſ') ∧ upperChars c = [plainUpper c]) := by
  have reserved : find? text = some kind ↔ (text.map plainUpper, kind) ∈ table := by
    rw [find?, lookup_table_eq_some_iff, upperCase_mem_table_iff]
  refine ⟨reserved, fun found c hc => ?_⟩
  apply upperChars_of_isUpper
  apply isUpper_of_mem_table (reserved.mp found)
  rw [String.toList_map]
  exact List.mem_map_of_mem hc

/-- `INSERT` with a dotless i and a long s, in both letter cases. -/
theorem find?_iff_plainUpper_insert : find? "ınſErt" = some .reservedWord ∧
    ("ınſErt".map plainUpper, Token.Kind.reservedWord) ∈ table ∧
    ∀ c ∈ "ınſErt".toList, (c.isAlpha ∨ c = 'ı' ∨ c = 'ſ') ∧ upperChars c = [plainUpper c] := by
  obtain ⟨reserved, letters⟩ := find?_iff_plainUpper "ınſErt" .reservedWord
  have found : find? "ınſErt" = some .reservedWord := by decide +kernel
  exact ⟨found, reserved.mp found, letters found⟩

end SelectLang.ReservedWord
