import SelectLang.Proofs.CommandLine.Agreement
import SelectLang.Proofs.Query.Reread

/-!
# A run on its own output

What a run without switches writes is a program again, and a run on that writes
the same: the listing of a text is a normal form of it. This holds for numerals
past the range of doubles, too, though the statements are not read back then: the
name that stands for such a number is written as it was read.

Results:
* `Cuts.line`: a line of a listing ends in a semicolon.
* `exists_program_listing`: a listing is cut into tokens that derive its
  statements.
* `parse_listing_of_parse`: so what is read is read from its listing with the
  column `inf` in place of each infinite number, which has the same listing.
* `ofText_of_parse`: the report of a program is its listing.
* `report_of_own_output`: so a run on its own output gives that output.
-/
namespace SelectLang

open SelectLang.Token SelectLang.Grammar

/-! ## Listings -/

theorem Token.Cuts.line {a b : List Char} {first second : List Token} (ha : Cuts a first)
    (hb : Cuts b second) : Cuts (a ++ ';' :: '\n' :: b) (first ++ ⟨.semicolon, ";"⟩ :: second) := by
  intro rest others breaks lexes
  have mem : (String.singleton ';', Kind.semicolon) ∈ symbols := by decide
  have next : Lexes ('\n' :: (b ++ rest)) (second ++ others) :=
    (hb rest others breaks lexes).blank (by decide +kernel)
  have semicolon : First (';' :: '\n' :: (b ++ rest)) .semicolon [';'] ('\n' :: (b ++ rest)) :=
    .symbol mem (by simp)
  have line := ha _ _ (breaks_cons (by simp) _) (semicolon.lexes next)
  simpa using line

theorem exists_program_listing {statements : List Statement}
    (h : ∀ s ∈ statements, s.Simple Binary64.Plain) :
    ∃ tokens, Program tokens statements ∧ Cuts (Statement.listing statements).toList tokens := by
  induction statements with
  | nil => exact ⟨[], .empty, cuts_nil⟩
  | cons s rest ih =>
    obtain ⟨simple, others⟩ := List.forall_mem_cons.mp h
    obtain ⟨first, stated, line⟩ := exists_stated simple
    obtain ⟨tokens, program, cuts⟩ := ih others
    refine ⟨first ++ ⟨.semicolon, ";"⟩ :: tokens, .more stated program, ?_⟩
    have text : (Statement.listing (s :: rest)).toList =
        s.text.toList ++ ';' :: '\n' :: (Statement.listing rest).toList := by
      simp [Statement.listing]
    rw [text]
    exact line.line cuts

theorem listing_reread {statements : List Statement}
    (h : ∀ s ∈ statements, s.Simple Binary64.Unsigned) :
    Statement.listing (statements.map Statement.reread) = Statement.listing statements := by
  have lines (statements : List Statement) : Statement.listing statements =
      String.join ((statements.map Statement.text).map (· ++ ";\n")) := by
    rw [List.map_map]
    rfl
  rw [lines, map_text_reread h, lines]

theorem parse_listing_of_parse {source : String} {statements : List Statement}
    (h : parse source = .ok statements) :
    parse (Statement.listing statements) = .ok (statements.map Statement.reread) := by
  have simple := simple_of_parse h
  obtain ⟨tokens, program, cuts⟩ := exists_program_listing (simple_map_reread simple)
  rw [listing_reread simple] at cuts
  exact parse_of_cuts program cuts

/-! ## Reports -/

namespace CommandLine

theorem ofText_of_parse {source : String} {statements : List Statement}
    (h : parse source = .ok statements) (query file : Option String) :
    Report.ofText ⟨query, file, false, false⟩ source = ⟨0, Statement.listing statements, ""⟩ := by
  have lines : statements.map (Report.statementText false) =
      statements.map fun s => s.text ++ ";\n" := by
    simp [Report.statementText]
  rw [Report.ofText_of_ok h, lines]
  simp [Report.dumped, Statement.listing]

/-- **A run on its own output.** What a run without switches writes of a program is
its listing; that is read without error and has the same listing, and a run
without switches on it writes it again. -/
theorem report_of_own_output {source : String} {statements : List Statement}
    (h : parse source = .ok statements) (query file : Option String) :
    (∃ again, parse (Statement.listing statements) = .ok again ∧
        Statement.listing again = Statement.listing statements) ∧
      Report.ofSource ⟨query, file, false, false⟩ (.ok source) =
        ⟨0, Statement.listing statements, ""⟩ ∧
      Report.ofSource ⟨query, file, false, false⟩
          (Source.decode (Statement.listing statements).toUTF8) =
        ⟨0, Statement.listing statements, ""⟩ := by
  have again := parse_listing_of_parse h
  have same := listing_reread (simple_of_parse h)
  refine ⟨⟨_, again, same⟩, ofText_of_parse h query file, ?_⟩
  rw [Source.decode_toUTF8, Report.ofSource, ofText_of_parse again, same]

/-- The statement of a numeral that is past the range of doubles. -/
def overflowProgram : List Statement := [.select ⟨[.literal (.number .infinity)], none, none⟩]

/-- What a run writes of it: the name that infinity is written as. -/
def overflowListing : String := "SELECT inf;\n"

theorem report_of_overflowListing :
    parse ("SELECT " ++ overflowNumeral) = .ok overflowProgram ∧
      (∃ again, parse overflowListing = .ok again ∧ Statement.listing again = overflowListing) ∧
      Report.ofSource ⟨none, some "t.sql", false, false⟩ (.ok ("SELECT " ++ overflowNumeral)) =
        ⟨0, overflowListing, ""⟩ ∧
      Report.ofSource ⟨none, some "t.sql", false, false⟩
          (Source.decode overflowListing.toUTF8) = ⟨0, overflowListing, ""⟩ := by
  have digits (n : Nat) : IsNumeral ('1' :: List.replicate n '0') :=
    ⟨_, [], by simp, by simp, by simp, .inl rfl⟩
  have text : overflowNumeral.toList = '1' :: List.replicate 309 '0' := String.toList_ofList
  have numeral : IsNumeral overflowNumeral.toList := text ▸ digits 309
  have past : Binary64.ofText? overflowNumeral.toList = some .infinity := by
    rw [text]
    decide +kernel
  have read : parse ("SELECT " ++ overflowNumeral) = .ok overflowProgram :=
    parse_select_numeral numeral past
  have listing : Statement.listing overflowProgram = overflowListing := by decide +kernel
  have own := report_of_own_output read none (some "t.sql")
  rw [listing] at own
  exact ⟨read, own⟩

end CommandLine

end SelectLang
