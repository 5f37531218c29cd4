/-!
# Sets of code points as ranges

A Unicode property is a table of closed ranges of code points, in ascending
order and apart from each other. A look-up walks the table and stops at the
first range that starts above the code point.

Results:
* `inRanges_iff`: on an ascending table the look-up says whether some range
  holds the code point.
* `isAlpha_bounds`, `isDigit_bounds`: the two ASCII classes that the tables are
  compared with.
-/
namespace SelectLang.Unicode

/-- Whether `n` lies in one of the ranges, which are taken to be in ascending
order. -/
def inRanges : List (Nat × Nat) → Nat → Bool
  | [], _ => false
  | (first, last) :: rest, n => if n < first then false else n ≤ last || inRanges rest n

/-- Every range is non-empty and ends before the next one starts. -/
def Ascending : List (Nat × Nat) → Prop
  | [] => True
  | [r] => r.1 ≤ r.2
  | r :: s :: rest => r.1 ≤ r.2 ∧ r.2 < s.1 ∧ Ascending (s :: rest)

instance decidableAscending : (rs : List (Nat × Nat)) → Decidable (Ascending rs)
  | [] => isTrue trivial
  | [r] => inferInstanceAs (Decidable (r.1 ≤ r.2))
  | r :: s :: rest =>
    have := decidableAscending (s :: rest)
    inferInstanceAs (Decidable (r.1 ≤ r.2 ∧ r.2 < s.1 ∧ Ascending (s :: rest)))

theorem Ascending.tail {r : Nat × Nat} {rs : List (Nat × Nat)} (h : Ascending (r :: rs)) :
    Ascending rs := by
  cases rs with
  | nil => trivial
  | cons s rest => exact h.2.2

/-- A range that follows another starts above the end of it. -/
theorem Ascending.lt_of_mem {r s : Nat × Nat} {rs : List (Nat × Nat)} (h : Ascending (r :: rs))
    (hs : s ∈ rs) : r.1 < s.1 := by
  induction rs generalizing r with
  | nil => cases hs
  | cons t rest ih =>
    obtain ⟨h1, h2, h3⟩ := h
    rcases List.mem_cons.mp hs with rfl | hs
    · omega
    · have := ih h3 hs
      omega

theorem inRanges_iff {rs : List (Nat × Nat)} (h : Ascending rs) (n : Nat) :
    inRanges rs n ↔ ∃ r ∈ rs, r.1 ≤ n ∧ n ≤ r.2 := by
  induction rs with
  | nil => simp [inRanges]
  | cons r rest ih =>
    have later := ih h.tail
    by_cases hn : n < r.1
    · simp only [inRanges, hn, reduceIte, Bool.false_eq_true, false_iff]
      rintro ⟨s, hs, h1, -⟩
      rcases List.mem_cons.mp hs with rfl | hs
      · omega
      · have := h.lt_of_mem hs
        omega
    · simp only [inRanges, hn, reduceIte, Bool.or_eq_true, decide_eq_true_eq, later,
        List.mem_cons, exists_eq_or_imp]
      constructor
      · exact Or.imp (fun h2 => ⟨by omega, h2⟩) id
      · exact Or.imp And.right id

theorem isAlpha_bounds {c : Char} (h : c.isAlpha) :
    65 ≤ c.toNat ∧ c.toNat ≤ 90 ∨ 97 ≤ c.toNat ∧ c.toNat ≤ 122 := by
  rcases (Bool.or_eq_true ..).mp h with upper | lower
  · exact .inl (of_decide_eq_true upper)
  · obtain ⟨h1, h2⟩ := (Bool.and_eq_true ..).mp lower
    exact .inr ⟨of_decide_eq_true h1, of_decide_eq_true h2⟩

theorem isDigit_bounds {c : Char} (h : c.isDigit) : 48 ≤ c.toNat ∧ c.toNat ≤ 57 := by
  simp only [Char.isDigit, Bool.and_eq_true, decide_eq_true_eq] at h
  exact h

end SelectLang.Unicode
