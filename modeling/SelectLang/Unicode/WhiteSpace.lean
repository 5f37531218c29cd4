import SelectLang.Unicode.Ranges

/-!
# White space

The Unicode property `White_Space`: twenty-five code points, among them the five
ASCII controls from tab to carriage return, the no-break space and the
ideographic space.

Results:
* `ascending_whiteSpace`: the ranges are in order and apart.
* `forall_isWhiteSpace`: what holds of the characters in the table holds of all
  white space.
-/
namespace SelectLang.Unicode

/-- The code points with the property `White_Space`, as closed ranges. -/
def whiteSpace : List (Nat × Nat) := [
  (0x09, 0x0D), (0x20, 0x20), (0x85, 0x85), (0xA0, 0xA0), (0x1680, 0x1680), (0x2000, 0x200A),
  (0x2028, 0x2029), (0x202F, 0x202F), (0x205F, 0x205F), (0x3000, 0x3000)]

def isWhiteSpace (c : Char) : Bool := inRanges whiteSpace c.toNat

theorem ascending_whiteSpace : Ascending whiteSpace := by decide +kernel

/-- A property of all white space is one of the characters in the table. -/
theorem forall_isWhiteSpace {P : Char → Prop}
    (table : ∀ r ∈ whiteSpace, ∀ n ∈ List.range' r.1 (r.2 + 1 - r.1), P (Char.ofNat n))
    {c : Char} (h : isWhiteSpace c) : P c := by
  obtain ⟨r, hr, h1, h2⟩ := (inRanges_iff ascending_whiteSpace _).mp h
  have := table r hr c.toNat (List.mem_range'_1.mpr ⟨h1, by omega⟩)
  rwa [Char.ofNat_toNat] at this

end SelectLang.Unicode
