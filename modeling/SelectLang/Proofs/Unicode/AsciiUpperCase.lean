import SelectLang.Unicode.UpperCase
import Mathlib

/-!
# Upper case in ASCII

Few characters outside ASCII have an upper case in it: the dotless i and the
long s, whose upper case is `I` and `S`, and some letters and ligatures whose
upper case is two letters or three. A word without such a group of letters is
therefore the upper case of no more than its own letters and these two.

* `plainUpper c`: the upper case in ASCII, with the dotless i and the long s for
  letters of ASCII.

Results:
* `shifted?_eq_some`, `expanded?_eq_some`: what a look-up finds stands in the
  table.
* `shifted?_cases`: outside ASCII only two letters are mapped into it one to one.
* `upperChars_of_ascii`: an upper case in ASCII is the plain one or an expansion.
* `upperChars_of_isUpper`: a plain upper case that is a capital letter is the upper
  case.
* `map_plainUpper_of_upperCase`: a text with an upper case into which no expansion
  fits has the same plain upper case.
* `upperCase_map_plainUpper`: a text with a plain upper case of capital letters has
  the same upper case.
-/
namespace SelectLang.Unicode

/-- The upper case in ASCII, with the dotless i and the long s for letters of
ASCII. -/
def plainUpper (c : Char) : Char :=
  if c = 'ı' then 'I' else if c = 'ſ' then 'S' else c.toUpper

theorem plainUpper_of_ne {c : Char} (dotless : c ≠ 'ı') (long : c ≠ 'ſ') :
    plainUpper c = c.toUpper := by
  simp [plainUpper, dotless, long]

/-! ## Look-ups -/

theorem shifted?_eq_some {runs : List CaseRun} {n m : Nat} (h : shifted? runs n = some m) :
    ∃ r ∈ runs, r.first ≤ n ∧ n ≤ r.last ∧ m = r.target + (n - r.first) := by
  induction runs with
  | nil => cases h
  | cons r rest ih =>
    rw [shifted?] at h
    split at h
    · cases h
    split at h
    · next holds =>
      simp only [CaseRun.holds, Bool.and_eq_true, decide_eq_true_eq] at holds
      obtain ⟨⟨above, below⟩, -⟩ := holds
      cases h
      exact ⟨r, List.mem_cons_self .., above, below, rfl⟩
    · obtain ⟨s, mem, found⟩ := ih h
      exact ⟨s, List.mem_cons_of_mem _ mem, found⟩

theorem expanded?_eq_some {table : List (Nat × List Nat)} {n : Nat} {image : List Nat}
    (h : expanded? table n = some image) : (n, image) ∈ table := by
  induction table with
  | nil => cases h
  | cons entry rest ih =>
    rw [expanded?] at h
    split at h
    · cases h
    split at h
    · next same =>
      cases h
      exact List.mem_cons.mpr (.inl (by rw [same]))
    · exact List.mem_cons_of_mem _ (ih h)

/-! ## Characters -/

/-- The run maps to characters outside ASCII. -/
structure CaseRun.Foreign (r : CaseRun) : Prop where
  above : 128 ≤ r.target
  valid : r.target + (r.last - r.first) < 0xD800 ∨
    0xDFFF < r.target ∧ r.target + (r.last - r.first) < 0x110000

instance (r : CaseRun) : Decidable r.Foreign :=
  decidable_of_iff (128 ≤ r.target ∧ (r.target + (r.last - r.first) < 0xD800 ∨
      0xDFFF < r.target ∧ r.target + (r.last - r.first) < 0x110000))
    ⟨fun h => ⟨h.1, h.2⟩, fun h => ⟨h.above, h.valid⟩⟩

theorem CaseRun.Foreign.not_ascii {r : CaseRun} (h : r.Foreign) {k : Nat}
    (inside : k ≤ r.last - r.first) : 128 ≤ (Char.ofNat (r.target + k)).toNat := by
  have valid : (r.target + k).isValidChar := by
    have := h.valid
    simp only [Nat.isValidChar]
    omega
  have := h.above
  rw [Char.toNat_ofNat, if_pos valid]
  omega

/-- Only the small letters of ASCII, the dotless i and the long s are mapped to
single characters of ASCII. -/
theorem caseRuns_cases : ∀ r ∈ caseRuns,
    r.last < 128 ∨ r.first = r.last ∧ (r.first = 0x131 ∨ r.first = 0x17F) ∨ r.Foreign := by
  decide +kernel

theorem shifted?_cases {n m : Nat} (h : shifted? caseRuns n = some m) :
    n < 128 ∨ n = 0x131 ∨ n = 0x17F ∨ 128 ≤ (Char.ofNat m).toNat := by
  obtain ⟨r, mem, above, below, rfl⟩ := shifted?_eq_some h
  rcases caseRuns_cases r mem with small | ⟨single, letter⟩ | foreign
  · omega
  · omega
  · exact .inr (.inr (.inr (foreign.not_ascii (by omega))))

theorem upperChars_of_ascii {c : Char} (ascii : ∀ d ∈ upperChars c, d.toNat < 128) :
    upperChars c = [plainUpper c] ∨
      ∃ e ∈ caseExpansions, upperChars c = e.2.map Char.ofNat := by
  -- Inside ASCII the plain upper case is the only one; outside, the tables decide.
  by_cases low : c.toNat < 128
  · have dotless : c ≠ 'ı' := fun same => absurd (same ▸ low) (by decide)
    have long : c ≠ 'ſ' := fun same => absurd (same ▸ low) (by decide)
    rw [plainUpper_of_ne dotless long]
    exact .inl (upperChars_ascii low)
  cases shift : shifted? caseRuns c.toNat with
  | some m =>
    rcases shifted?_cases shift with small | dotless | long | foreign
    · exact absurd small low
    · obtain rfl : c = 'ı' := Char.toNat_inj.mp dotless
      exact .inl (by decide)
    · obtain rfl : c = 'ſ' := Char.toNat_inj.mp long
      exact .inl (by decide)
    · have image : upperChars c = [Char.ofNat m] := by simp [upperChars, shift]
      have small := ascii _ (by rw [image]; exact List.mem_singleton_self _)
      omega
  | none =>
    cases expansion : expanded? caseExpansions c.toNat with
    | some image =>
      exact .inr ⟨_, expanded?_eq_some expansion, by simp [upperChars, shift, expansion]⟩
    | none =>
      have same : upperChars c = [c] := by simp [upperChars, shift, expansion]
      exact absurd (ascii c (by simp [same])) low

/-- Only the letters of ASCII, the dotless i and the long s have a plain upper case that is
a capital letter, and that is their upper case. -/
theorem upperChars_of_isUpper {c : Char} (h : (plainUpper c).isUpper) :
    (c.isAlpha ∨ c = 'ı' ∨ c = 'ſ') ∧ upperChars c = [plainUpper c] := by
  by_cases dotless : c = 'ı'
  · subst dotless
    exact ⟨.inr (.inl rfl), by decide⟩
  by_cases long : c = 'ſ'
  · subst long
    exact ⟨.inr (.inr rfl), by decide⟩
  rw [plainUpper_of_ne dotless long] at h ⊢
  rw [Char.isUpper_toUpper_eq_isAlpha] at h
  have := isAlpha_bounds h
  exact ⟨.inl h, upperChars_ascii (by omega)⟩

/-! ## Texts -/

/-- A text whose upper case is a word of ASCII has the same plain upper case, if
no expansion fits into the word. -/
theorem map_plainUpper_of_upperCase {text key : String} (h : upperCase text = key)
    (ascii : ∀ d ∈ key.toList, d.toNat < 128)
    (apart : ∀ e ∈ caseExpansions, ¬ e.2.map Char.ofNat <:+: key.toList) :
    text.toList.map plainUpper = key.toList := by
  have image : text.toList.flatMap upperChars = key.toList := by
    rw [← h, upperCase, String.toList_ofList]
  have each (c : Char) (mem : c ∈ text.toList) : upperChars c = [plainUpper c] := by
    have piece : upperChars c <:+: key.toList := image ▸ List.infix_flatMap_of_mem mem upperChars
    rcases upperChars_of_ascii fun d hd => ascii d (piece.subset hd) with plain | ⟨e, entry, same⟩
    · exact plain
    · exact absurd (same ▸ piece) (apart e entry)
  rw [← image, List.map_eq_flatMap]
  exact (List.flatMap_congr each).symm

theorem upperCase_map_plainUpper {text : String}
    (capital : ∀ d ∈ text.toList.map plainUpper, d.isUpper) :
    upperCase text = text.map plainUpper := by
  have each (c : Char) (mem : c ∈ text.toList) : upperChars c = [plainUpper c] :=
    (upperChars_of_isUpper (capital _ (List.mem_map_of_mem mem))).2
  apply String.toList_inj.mp
  rw [upperCase, String.toList_ofList, String.toList_map, List.map_eq_flatMap]
  exact List.flatMap_congr each

end SelectLang.Unicode
