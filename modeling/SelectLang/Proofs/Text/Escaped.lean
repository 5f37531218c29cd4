import SelectLang.Text.Escaped
import SelectLang.Token.Scan
import Mathlib

/-!
# Escaped texts can be told apart

A character is shown by itself, by a backslash and a letter, or by a backslash and its
code point in braces. No backslash and no double quote is shown by itself, no letter
stands for two characters, and a code point ends with the first closing brace. So an
escape is never the beginning of another one: an escaped text is shown by no other text,
and its closing quote is where it ends.

* `shortEscapes`: the characters that are shown by a letter.
* `Shown c form`: the three forms in which a character is shown.

Results:
* `eq_of_append_separator`: texts are divided at the first separator in one way.
* `toDigits_inj`: a number has one hexadecimal form.
* `escapeChar_append_inj`: an escape is not the beginning of another one.
* `escapeChars_append_inj`: nor is an escaped text with its quote.
* `escapeChars_no_lineEnd`: an escaped text is one line.
-/
namespace SelectLang

/-- Two texts that are the same up to a separator that neither has before. -/
theorem eq_of_append_separator {α : Type} {a : α} {x y s t : List α} (hx : a ∉ x) (hy : a ∉ y)
    (h : x ++ a :: s = y ++ a :: t) : x = y ∧ s = t := by
  rcases List.append_eq_append_iff.mp h with ⟨more, rfl, rest⟩ | ⟨more, rfl, rest⟩
  · cases more with
    | nil => exact ⟨(List.append_nil x).symm, (List.cons.inj rest).2⟩
    | cons b more =>
      obtain ⟨rfl, -⟩ := List.cons.inj rest
      simp at hy
  · cases more with
    | nil => exact ⟨List.append_nil y, (List.cons.inj rest).2.symm⟩
    | cons b more =>
      obtain ⟨rfl, -⟩ := List.cons.inj rest
      simp at hx

namespace Escaped

/-! ## Hexadecimal digits -/

theorem digitChar_inj {m n : Nat} (hm : m < 16) (hn : n < 16)
    (h : Nat.digitChar m = Nat.digitChar n) : m = n := by
  have table : ∀ m < 16, ∀ n < 16, Nat.digitChar m = Nat.digitChar n → m = n := by decide
  exact table m hm n hn h

theorem exists_digitChar {c : Char} {n : Nat} (h : c ∈ Nat.toDigits 16 n) :
    ∃ k, c = Nat.digitChar k := by
  induction n using Nat.strongRecOn with
  | ind n ih =>
    rw [Nat.toDigits_eq_if (by decide)] at h
    split at h
    · exact ⟨n, List.mem_singleton.mp h⟩
    · rcases List.mem_append.mp h with front | last
      · exact ih (n / 16) (by omega) front
      · exact ⟨n % 16, List.mem_singleton.mp last⟩

theorem toDigits_inj {m n : Nat} (h : Nat.toDigits 16 m = Nat.toDigits 16 n) : m = n := by
  induction m using Nat.strongRecOn generalizing n with
  | ind m ih =>
    have longer (k : Nat) : (Nat.toDigits 16 k).length ≠ 0 :=
      Nat.ne_of_gt Nat.length_toDigits_pos
    rw [Nat.toDigits_eq_if (by decide), Nat.toDigits_eq_if (n := n) (by decide)] at h
    split at h <;> split at h
    · exact digitChar_inj ‹_› ‹_› (List.singleton_inj.mp h)
    · have := congrArg List.length h
      simp [longer] at this
    · have := congrArg List.length h
      simp [longer] at this
    · obtain ⟨front, last⟩ := List.append_inj' h rfl
      have quotient := ih (m / 16) (by omega) front
      have remainder := digitChar_inj (Nat.mod_lt m (by decide)) (Nat.mod_lt n (by decide))
        (List.singleton_inj.mp last)
      omega

/-! ## Characters -/

/-- The characters that are shown by a backslash and a letter, with the letter. -/
def shortEscapes : List (Char × Char) :=
  [('\x00', '0'), ('\t', 't'), ('\n', 'n'), ('\r', 'r'), ('\x22', '\x22'), ('\\', '\\')]

/-- The forms in which a character is shown. -/
inductive Shown (c : Char) : List Char → Prop
  | short {letter : Char} : (c, letter) ∈ shortEscapes → Shown c ['\\', letter]
  | codePoint : Shown c (codePoint c)
  | plain : c ≠ '\\' → c ≠ '\x22' → isLineEnd c = false → Shown c [c]

theorem shown_escapeChar (c : Char) : Shown c (escapeChar c) := by
  by_cases listed : c ∈ shortEscapes.map Prod.fst
  · obtain ⟨⟨d, letter⟩, mem, rfl⟩ := List.mem_map.mp listed
    have table : ∀ entry ∈ shortEscapes, escapeChar entry.1 = ['\\', entry.2] := by decide
    rw [table _ mem]
    exact .short mem
  · simp only [shortEscapes, List.map_cons, List.map_nil, List.mem_cons, List.not_mem_nil, or_false,
      not_or] at listed
    obtain ⟨nul, tab, feed, carriage, quote, backslash⟩ := listed
    simp only [escapeChar, nul, tab, feed, carriage, quote, backslash, if_false]
    split
    · exact .codePoint
    · exact .plain backslash quote (by simp [isLineEnd, feed, carriage])

theorem digits_ne {c : Char} {n : Nat} (h : c ∈ Nat.toDigits 16 n) :
    c ≠ '\x7d' ∧ isLineEnd c = false := by
  obtain ⟨k, rfl⟩ := exists_digitChar h
  have brace : Nat.digitChar k ≠ '\x7d' := Nat.digitChar_ne _ (by decide)
  have feed : Nat.digitChar k ≠ '\n' := Nat.digitChar_ne _ (by decide)
  have carriage : Nat.digitChar k ≠ '\r' := Nat.digitChar_ne _ (by decide)
  exact ⟨brace, by simp [isLineEnd, feed, carriage]⟩

/-- A code point ends with the first closing brace. -/
theorem codePoint_append_inj {c d : Char} {s t : List Char}
    (h : codePoint c ++ s = codePoint d ++ t) : c = d ∧ s = t := by
  simp only [codePoint, List.append_assoc, List.append_cancel_left_eq] at h
  have no_brace (e : Char) : '\x7d' ∉ Nat.toDigits 16 e.toNat := fun mem => (digits_ne mem).1 rfl
  obtain ⟨digits, rest⟩ := eq_of_append_separator (no_brace c) (no_brace d) h
  exact ⟨Char.toNat_inj.mp (toDigits_inj digits), rest⟩

/-- An escape is not the beginning of another one. -/
theorem escapeChar_append_inj {c d : Char} {s t : List Char}
    (h : escapeChar c ++ s = escapeChar d ++ t) : c = d ∧ s = t := by
  have shown := shown_escapeChar c
  have shown' := shown_escapeChar d
  generalize escapeChar c = form at h shown
  generalize escapeChar d = form' at h shown'
  -- The first character tells a plain form from the others, the second the other two.
  have no_u : ∀ entry ∈ shortEscapes, entry.2 ≠ 'u' := by decide
  have once : ∀ entry ∈ shortEscapes, ∀ entry' ∈ shortEscapes,
      entry.2 = entry'.2 → entry = entry' := by decide
  cases shown with
  | @short letter mem =>
    cases shown' with
    | @short letter' mem' =>
      simp only [List.cons_append, List.nil_append, List.cons.injEq, true_and] at h
      exact ⟨congrArg Prod.fst (once _ mem _ mem' h.1), h.2⟩
    | codePoint =>
      simp only [codePoint, List.cons_append, List.nil_append, List.cons.injEq, true_and] at h
      exact absurd h.1 (no_u _ mem)
    | plain backslash _ _ => exact absurd (List.cons.inj h).1.symm backslash
  | codePoint =>
    cases shown' with
    | @short letter' mem' =>
      simp only [codePoint, List.cons_append, List.nil_append, List.cons.injEq, true_and] at h
      exact absurd h.1.symm (no_u _ mem')
    | codePoint => exact codePoint_append_inj h
    | plain backslash _ _ => exact absurd (List.cons.inj h).1.symm backslash
  | plain backslash _ _ =>
    cases shown' with
    | short _ => exact absurd (List.cons.inj h).1 backslash
    | codePoint => exact absurd (List.cons.inj h).1 backslash
    | plain _ _ _ => exact List.cons.inj h

theorem escapeChar_head (c : Char) : ∃ d rest, escapeChar c = d :: rest ∧ d ≠ '\x22' := by
  have shown := shown_escapeChar c
  generalize escapeChar c = form at shown
  cases shown with
  | short _ => exact ⟨_, _, rfl, by decide⟩
  | codePoint => exact ⟨_, _, rfl, by decide⟩
  | plain _ quote _ => exact ⟨_, _, rfl, quote⟩

theorem escapeChar_no_lineEnd (c : Char) : ∀ d ∈ escapeChar c, isLineEnd d = false := by
  have shown := shown_escapeChar c
  generalize escapeChar c = form at shown
  have letters : ∀ entry ∈ shortEscapes, isLineEnd entry.2 = false := by decide
  intro d hd
  cases shown with
  | short mem =>
    simp only [List.mem_cons, List.not_mem_nil, or_false] at hd
    rcases hd with rfl | rfl
    · rfl
    · exact letters _ mem
  | codePoint =>
    simp only [codePoint, List.mem_append, List.mem_cons, List.not_mem_nil, or_false] at hd
    rcases hd with ((rfl | rfl | rfl) | digit) | rfl
    · rfl
    · rfl
    · rfl
    · exact (digits_ne digit).2
    · rfl
  | plain _ _ shown => rwa [List.mem_singleton.mp hd]

/-! ## Texts -/

/-- An escaped text ends with the first double quote that is not escaped. -/
theorem escapeChars_append_inj {a b s t : List Char}
    (h : escapeChars a ++ '\x22' :: s = escapeChars b ++ '\x22' :: t) : a = b ∧ s = t := by
  induction a generalizing b with
  | nil =>
    cases b with
    | nil => exact ⟨rfl, (List.cons.inj h).2⟩
    | cons d b =>
      obtain ⟨e, rest, form, quote⟩ := escapeChar_head d
      simp only [escapeChars, List.flatMap_nil, List.flatMap_cons, form] at h
      exact absurd (List.cons.inj h).1.symm quote
  | cons c a ih =>
    cases b with
    | nil =>
      obtain ⟨e, rest, form, quote⟩ := escapeChar_head c
      simp only [escapeChars, List.flatMap_nil, List.flatMap_cons, form] at h
      exact absurd (List.cons.inj h).1 quote
    | cons d b =>
      simp only [escapeChars, List.flatMap_cons, List.append_assoc] at h
      obtain ⟨rfl, further⟩ := escapeChar_append_inj h
      obtain ⟨rfl, rest⟩ := ih further
      exact ⟨rfl, rest⟩

theorem escapeChars_no_lineEnd (text : List Char) :
    ∀ d ∈ escapeChars text, isLineEnd d = false := by
  intro d hd
  obtain ⟨c, -, mem⟩ := List.mem_flatMap.mp hd
  exact escapeChar_no_lineEnd c d mem

end Escaped

end SelectLang
