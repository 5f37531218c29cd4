import SelectLang.Proofs.Query.RoundTrip
import SelectLang.Proofs.Text.Escaped

/-!
# Nested comparisons

A comparison is written as its two sides with the sign of the relation between them, and
a side that is a comparison itself is written no other way. So the text of an expression
shows which operands and which relations stand in it, in their order, and it shows
nothing else: not which of the relations is meant to be the outer one.

* `Nested number e`: the operands of an expression are names and literals.
* `chain e`: the first operand, and each relation with the operand behind it.

Results:
* `Simple.text_inj`: an operand is told from what is written behind it.
* `text_eq_iff`: expressions have the same text exactly if they have the same chain.
* `eq_of_chain_eq`, `exists_other`: a chain belongs to one expression exactly if there
  is no more than one relation in it.
* `text_determines_iff`: which expressions are determined by their text.
-/
namespace SelectLang

open SelectLang.Token SelectLang.Grammar

namespace Expr

/-! ## Chains -/

/-- Names and literals, and comparisons of such expressions, nested in any way; each
number has the property. -/
def Nested (number : Binary64 → Prop) : Expr → Prop
  | column name => (column name).Simple number
  | literal value => (literal value).Simple number
  | compare left _ right => left.Nested number ∧ right.Nested number

instance decidableNested (number : Binary64 → Prop) [DecidablePred number] :
    (e : Expr) → Decidable (e.Nested number)
  | column name => inferInstanceAs (Decidable ((column name).Simple number))
  | literal value => inferInstanceAs (Decidable ((literal value).Simple number))
  | compare left _ right =>
    have := decidableNested number left
    have := decidableNested number right
    inferInstanceAs (Decidable (left.Nested number ∧ right.Nested number))

/-- The first operand of an expression, and each relation with the operand behind it, in
the order in which they are written. -/
def chain : Expr → Expr × List (Comparison × Expr)
  | column name => (column name, [])
  | literal value => (literal value, [])
  | compare left relation right =>
    (left.chain.1, left.chain.2 ++ (relation, right.chain.1) :: right.chain.2)

/-- A relation with the operand behind it, as they are written. -/
def linkText (link : Comparison × Expr) : List Char :=
  ' ' :: (link.1.sign.toList ++ ' ' :: link.2.text.toList)

theorem toList_text (e : Expr) :
    e.text.toList = e.chain.1.text.toList ++ e.chain.2.flatMap linkText := by
  induction e with
  | column name => simp [chain]
  | literal value => simp [chain]
  | compare left relation right ihl ihr => simp [text, chain, linkText, ihl, ihr]

theorem Nested.chain {number : Binary64 → Prop} {e : Expr} (h : e.Nested number) :
    e.chain.1.Simple number ∧ ∀ link ∈ e.chain.2, link.2.Simple number := by
  induction e with
  | column name => exact ⟨h, by simp [Expr.chain]⟩
  | literal value => exact ⟨h, by simp [Expr.chain]⟩
  | compare left relation right ihl ihr =>
    obtain ⟨first, links⟩ := ihl h.1
    obtain ⟨second, others⟩ := ihr h.2
    refine ⟨first, fun link mem => ?_⟩
    rcases List.mem_append.mp mem with mem | mem
    · exact links link mem
    · rcases List.mem_cons.mp mem with rfl | mem
      · exact second
      · exact others link mem

/-! ## What a text shows -/

/-- Where a break follows, an operand is told from what is written behind it. -/
theorem Simple.text_inj {x y : Expr} {s t : List Char} (hx : x.Simple Binary64.Plain)
    (hy : y.Simple Binary64.Plain) (hs : Breaks s) (ht : Breaks t)
    (h : x.text.toList ++ s = y.text.toList ++ t) : x = y ∧ s = t := by
  obtain ⟨kind, solid, denotes⟩ := solid_expr hx
  obtain ⟨kind', solid', denotes'⟩ := solid_expr hy
  have first := solid s hs
  rw [h] at first
  obtain ⟨rfl, same, rest⟩ := first.unique (solid' t ht)
  rw [String.toList_inj.mp same] at denotes
  have value := (expression_eq_ok_iff ..).mpr denotes
  rw [(expression_eq_ok_iff ..).mpr denotes'] at value
  exact ⟨(Except.ok.inj value).symm, rest⟩

theorem sign_inj {a b : Comparison} {s t : List Char}
    (h : a.sign.toList ++ ' ' :: s = b.sign.toList ++ ' ' :: t) : a = b ∧ s = t := by
  have signs : ∀ a ∈ Comparison.all, ' ' ∉ a.sign.toList ∧
      ∀ b ∈ Comparison.all, a.sign.toList = b.sign.toList → a = b := by decide
  have mem (a : Comparison) : a ∈ Comparison.all := by cases a <;> decide
  obtain ⟨sign, rest⟩ := eq_of_append_separator (signs a (mem a)).1 (signs b (mem b)).1 h
  exact ⟨(signs a (mem a)).2 b (mem b) sign, rest⟩

theorem breaks_links (links : List (Comparison × Expr)) : Breaks (links.flatMap linkText) := by
  cases links with
  | nil => simp [Breaks]
  | cons link links => exact breaks_cons (by simp) _

/-- A chain is read off its text from the front, operand by operand. -/
theorem links_inj {x y : Expr} {xs ys : List (Comparison × Expr)}
    (hx : x.Simple Binary64.Plain) (hy : y.Simple Binary64.Plain)
    (hxs : ∀ link ∈ xs, link.2.Simple Binary64.Plain)
    (hys : ∀ link ∈ ys, link.2.Simple Binary64.Plain)
    (h : x.text.toList ++ xs.flatMap linkText = y.text.toList ++ ys.flatMap linkText) :
    x = y ∧ xs = ys := by
  induction xs generalizing x y ys with
  | nil =>
    obtain ⟨rfl, rest⟩ := hx.text_inj hy (breaks_links _) (breaks_links _) h
    cases ys with
    | nil => exact ⟨rfl, rfl⟩
    | cons link ys => cases rest
  | cons link xs ih =>
    obtain ⟨rfl, rest⟩ := hx.text_inj hy (breaks_links _) (breaks_links _) h
    cases ys with
    | nil => cases rest
    | cons link' ys =>
      obtain ⟨simple, others⟩ := List.forall_mem_cons.mp hxs
      obtain ⟨simple', others'⟩ := List.forall_mem_cons.mp hys
      simp only [List.flatMap_cons, linkText, List.cons_append, List.append_assoc,
        List.cons.injEq, true_and] at rest
      obtain ⟨relation, behind⟩ := sign_inj rest
      obtain ⟨operand, rfl⟩ := ih simple simple' others others' behind
      exact ⟨rfl, by rw [Prod.ext relation operand]⟩

theorem text_eq_iff {a b : Expr} (ha : a.Nested Binary64.Plain) (hb : b.Nested Binary64.Plain) :
    a.text = b.text ↔ a.chain = b.chain := by
  constructor
  · intro same
    have lists := congrArg String.toList same
    rw [toList_text a, toList_text b] at lists
    obtain ⟨first, links⟩ := links_inj ha.chain.1 hb.chain.1 ha.chain.2 hb.chain.2 lists
    exact Prod.ext first links
  · intro same
    apply String.toList_inj.mp
    rw [toList_text a, toList_text b, same]

/-! ## What it does not show -/

theorem exists_compare {e : Expr} (h : e.chain.2 ≠ []) :
    ∃ left relation right, e = compare left relation right := by
  cases e with
  | column name => exact absurd rfl h
  | literal value => exact absurd rfl h
  | compare left relation right => exact ⟨left, relation, right, rfl⟩

theorem chain_of_no_link {e : Expr} (h : e.chain.2 = []) : e = e.chain.1 := by
  cases e with
  | column name => rfl
  | literal value => rfl
  | compare left relation right => simp [chain] at h

theorem chain_of_link {e : Expr} {link : Comparison × Expr} (h : e.chain.2 = [link]) :
    e = compare e.chain.1 link.1 link.2 := by
  cases e with
  | column name => cases h
  | literal value => cases h
  | compare left relation right =>
    obtain ⟨before, behind⟩ | ⟨-, none⟩ := List.append_eq_singleton_iff.mp h
    · obtain ⟨rfl, after⟩ := List.cons.inj behind
      show compare left relation right = compare left.chain.1 relation right.chain.1
      rw [← chain_of_no_link before, ← chain_of_no_link after]
    · cases none

/-- An expression with at most one relation is the only one with its chain. -/
theorem eq_of_chain_eq {a b : Expr} (short : a.chain.2.length ≤ 1) (h : a.chain = b.chain) :
    a = b := by
  cases links : a.chain.2 with
  | nil =>
    calc a = a.chain.1 := chain_of_no_link links
      _ = b.chain.1 := by rw [h]
      _ = b := (chain_of_no_link (h ▸ links)).symm
  | cons link more =>
    rw [links, List.length_cons] at short
    obtain rfl : more = [] := List.eq_nil_of_length_eq_zero (by omega)
    calc a = compare a.chain.1 link.1 link.2 := chain_of_link links
      _ = compare b.chain.1 link.1 link.2 := by rw [h]
      _ = b := (chain_of_link (h ▸ links)).symm

/-- An expression with more relations shares its chain with another one. -/
theorem exists_other {a : Expr} (long : 1 < a.chain.2.length) :
    ∃ b, b.chain = a.chain ∧ b ≠ a ∧ ∀ number, a.Nested number → b.Nested number := by
  obtain ⟨left, relation, right, rfl⟩ : ∃ left relation right, a = compare left relation right :=
    exists_compare fun none => by simp [none] at long
  -- A side that is a comparison can give its relation up to be the outer one.
  by_cases leaf : left.chain.2 = []
  · obtain ⟨second, inner, third, rfl⟩ : ∃ second inner third, right = compare second inner third :=
      exists_compare fun none => by simp [chain, leaf, none] at long
    refine ⟨compare (compare left relation second) inner third, by simp [chain], ?_, ?_⟩
    · intro same
      injection same with sides
      exact absurd (congrArg sizeOf sides) (by simp; omega)
    · rintro number ⟨h1, h2, h3⟩
      exact ⟨⟨h1, h2⟩, h3⟩
  · obtain ⟨first, outer, second, rfl⟩ := exists_compare leaf
    refine ⟨compare first outer (compare second relation right), by simp [chain], ?_, ?_⟩
    · intro same
      injection same with sides
      exact absurd (congrArg sizeOf sides) (by simp; omega)
    · rintro number ⟨⟨h1, h2⟩, h3⟩
      exact ⟨h1, h2, h3⟩

/-- **A text shows no nesting.** Expressions of names, of plain numbers and of any other
literals have the same text exactly if the same operands and relations stand in them in
the same order. So an expression is determined by its text exactly if there is no more
than one relation in it. -/
theorem text_determines_iff {a : Expr} (ha : a.Nested Binary64.Plain) :
    (∀ b : Expr, b.Nested Binary64.Plain → (a.text = b.text ↔ a.chain = b.chain)) ∧
      ((∀ b : Expr, b.Nested Binary64.Plain → a.text = b.text → a = b) ↔ a.chain.2.length ≤ 1) := by
  refine ⟨fun b hb => text_eq_iff ha hb, fun determined => ?_, fun short b hb same => ?_⟩
  · refine Nat.le_of_not_lt fun long => ?_
    obtain ⟨b, chain, other, nested⟩ := exists_other long
    have hb := nested _ ha
    exact other (determined b hb ((text_eq_iff ha hb).mpr chain.symm)).symm
  · exact eq_of_chain_eq short ((text_eq_iff ha hb).mp same)

/-- Two relations, and signs of relations in a string with quotes. -/
def signsInString : Expr :=
  compare (compare (column "größe") .lessOrEqual (literal (.string "\x27 <> b = \x27"))) .notEqual
    (literal (.number ⟨false, 0x3FC0000000000000, by decide⟩))

theorem text_determines_iff_signsInString : signsInString.Nested Binary64.Plain ∧
    signsInString.chain.2.length = 2 ∧
    ¬ ∀ b : Expr, b.Nested Binary64.Plain → signsInString.text = b.text → signsInString = b := by
  have nested : signsInString.Nested Binary64.Plain := by decide +kernel
  refine ⟨nested, rfl, fun determined => ?_⟩
  have short := (text_determines_iff nested).2.mp determined
  exact absurd short (by decide)

def leaningLeft : Expr :=
  compare (compare (column "a") .equal (column "b")) .equal (column "c")

def leaningRight : Expr :=
  compare (column "a") .equal (compare (column "b") .equal (column "c"))

/-- Two expressions with one text. -/
theorem not_text_determines : leaningLeft.Nested Binary64.Plain ∧
    leaningRight.Nested Binary64.Plain ∧ leaningLeft.text = "a = b = c" ∧
    leaningRight.text = "a = b = c" ∧ leaningLeft ≠ leaningRight ∧
    (leaningLeft == leaningRight) = false := by
  refine ⟨by decide +kernel, by decide +kernel, by decide, by decide, by decide, by decide⟩

end Expr

end SelectLang
