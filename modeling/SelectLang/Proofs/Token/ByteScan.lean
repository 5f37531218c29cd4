import SelectLang.Proofs.Token.Lexing
import SelectLang.Proofs.Token.ScanTask
import Mathlib.Data.String.Basic

/-!
# A scan by offsets is safe

The parts of a text at a byte offset are asked for without a look whether the offset is
between two characters. It always is: the offsets are moved by the bytes of characters
that have been seen, and taken back by the bytes of the one that has just been passed.
No lexeme and no gap is empty, so the scan moves on and stops; and since it agrees with
the scan by characters at every step, it stops with the same lexemes.

* `Stands s before pending left`: the offsets are those of the parts of the text.
* `Agrees s text`: the scan by characters comes to the same from the offset on.
* `Sound`: the offsets are right for the task, or the lexemes are those of the text.
* `measure`: a bound of the steps until the scan stops.
* `BacksUp`, `Passes`: the next step takes a character back, or passes one.

Results:
* `splitAt?_eq_some_iff`: which parts of a text there are at a byte offset.
* `step_cases`: what one step can do.
* `Sound.step`, `Sound.after`: every step of a scan is sound.
* `Sound.exists_stopped`, `Sound.ofText_of_stopped`: it stops, and with what.
* `Sound.valid`, `Sound.current_lt`: where the offsets are, and that they move on.
* `Sound.backup`: what is taken back has just been passed.
* `byteScan_safe`: all this for every text.
-/
namespace SelectLang

open SelectLang.Unicode SelectLang.Token SelectLang.Scan

open String (utf8Len)

theorem splitAt?_eq_some_iff {text front left : List Char} {n : Nat} :
    splitAt? text n = some (front, left) ↔ text = front ++ left ∧ n = utf8Len front := by
  refine ⟨fun h => ?_, ?_⟩
  · induction text, n using splitAt?.induct generalizing front with
    | case1 text =>
      rw [splitAt?] at h
      cases h
      exact ⟨rfl, rfl⟩
    | case2 n => rw [splitAt?] at h; cases h
    | case3 c rest n fits ih =>
      rw [splitAt?, if_pos fits] at h
      obtain ⟨⟨front', left'⟩, parts, e⟩ := Option.map_eq_some_iff.mp h
      cases e
      obtain ⟨rfl, size⟩ := ih parts
      refine ⟨rfl, ?_⟩
      rw [String.utf8Len_cons, ← size, Nat.sub_add_cancel fits]
    | case4 c rest n short =>
      rw [splitAt?, if_neg short] at h
      cases h
  · rintro ⟨rfl, rfl⟩
    induction front with
    | nil => cases left <;> rfl
    | cons c rest ih =>
      obtain ⟨n, e⟩ : ∃ n, utf8Len (c :: rest) = n + 1 :=
        Nat.exists_eq_succ_of_ne_zero (by simp [Nat.ne_of_gt c.utf8Size_pos])
      rw [e, List.cons_append, splitAt?, ← e, if_pos (by simp), String.utf8Len_cons,
        Nat.add_sub_cancel, ih]
      rfl

example : splitAt? ['é', 'a'] 1 = none := by decide

theorem isValid_of_toList_eq {source : String} {front left : List Char} {n : Nat}
    (split : source.toList = front ++ left) (size : n = utf8Len front) :
    String.Pos.Raw.IsValid source ⟨n⟩ := by
  refine String.Pos.Raw.isValid_iff_exists_append.mpr
    ⟨String.ofList front, String.ofList left, ?_, ?_⟩
  · rw [← String.ofList_append, ← split, String.ofList_toList]
  · rw [size, ← String.utf8ByteSize_ofList]
    rfl

namespace ByteScan

/-! ## Offsets -/

/-- The offsets are those of two parts of the text, which is made of what is before the
lexeme that is under way, what has been passed of this, and what is left. -/
structure Stands (s : ByteScan) (before pending left : List Char) : Prop where
  source : s.source.toList = before ++ pending ++ left
  start : s.start = utf8Len before
  current : s.current = utf8Len (before ++ pending)

namespace Stands

variable {s : ByteScan} {before pending left : List Char}

theorem parts (h : s.Stands before pending left) :
    splitAt? s.source.toList s.current = some (before ++ pending, left) :=
  splitAt?_eq_some_iff.mpr ⟨h.source, h.current⟩

theorem literal? (h : s.Stands before pending left) :
    s.literal? = some (String.ofList pending) := by
  have front : splitAt? (before ++ pending) s.start = some (before, pending) :=
    splitAt?_eq_some_iff.mpr ⟨rfl, h.start⟩
  rw [ByteScan.literal?, h.parts, Option.bind_some, front, Option.map_some]

theorem emit (h : s.Stands before pending left) (kind : String → Token.Kind) (next : Control) :
    s.emit kind next =
      { s with
        lexemes := ⟨⟨kind (String.ofList pending), String.ofList pending⟩, s.start⟩ :: s.lexemes
        start := s.current
        control := next } := by
  rw [ByteScan.emit, h.literal?]

theorem moved (h : s.Stands before pending left) {pending' left' : List Char}
    (same : pending' ++ left' = pending ++ left) (width : Nat) (control : Control) :
    Stands { s with current := utf8Len (before ++ pending'), width, control } before pending'
      left' where
  source := by rw [h.source, List.append_assoc, List.append_assoc, same]
  start := h.start
  current := rfl

theorem cut (h : s.Stands before pending left) (lexemes : List Lexeme) (control : Control) :
    Stands { s with lexemes, start := s.current, control } (before ++ pending) [] left where
  source := by rw [h.source, List.append_nil]
  start := h.current
  current := by rw [List.append_nil]; exact h.current

theorem size (h : s.Stands before pending left) :
    s.source.utf8ByteSize = utf8Len before + utf8Len pending + utf8Len left := by
  rw [← String.ofList_toList (s := s.source), String.utf8ByteSize_ofList, h.source,
    String.utf8Len_append, String.utf8Len_append]

theorem current_eq (h : s.Stands before pending left) :
    s.current = s.start + (String.ofList pending).utf8ByteSize := by
  rw [h.current, h.start, String.utf8Len_append, String.utf8ByteSize_ofList]

theorem start_le (h : s.Stands before pending left) : s.start ≤ s.current := by
  rw [h.current_eq]
  exact Nat.le_add_right ..

theorem start_lt (h : s.Stands before pending left) (ne : pending ≠ []) : s.start < s.current := by
  rw [h.current_eq, String.utf8ByteSize_ofList]
  exact Nat.lt_add_of_pos_right (Nat.pos_of_ne_zero (by simpa using ne))

theorem current_le (h : s.Stands before pending left) : s.current ≤ s.source.utf8ByteSize := by
  rw [h.current, h.size, String.utf8Len_append]
  exact Nat.le_add_right ..

end Stands

/-- From the lexeme that is under way on, a scan by characters comes to what it comes to
from the beginning on. -/
def Agrees (s : ByteScan) (text : List Char) : Prop :=
  ((Scan.between s.start s.lexemes).after text).finish =
    (Scan.initial.after s.source.toList).finish

theorem Agrees.ofText {s : ByteScan} {text : List Char} (h : s.Agrees text) {t : Scan}
    (e : ((Scan.between s.start s.lexemes).after text).finish = t) :
    Lexing.ofText s.source = ⟨t.lexemes.reverse, t.fault?⟩ := by
  rw [Lexing.ofText, ← h, e]

section Step

variable {s : ByteScan} {task : Task} {before pending left : List Char}

/-- What one step can do: go on with the lexeme, make it a lexeme or a gap and look for
the next one, or stop. -/
theorem step_cases (doing : s.control = .doing task) (stands : s.Stands before pending left)
    (ready : task.Ready pending left s.width) (agrees : s.Agrees (pending ++ left)) :
    (∃ next pending' left' width, s.step =
        { s with current := utf8Len (before ++ pending'), width, control := .doing next } ∧
      pending' ++ left' = pending ++ left ∧ next.Ready pending' left' width ∧ next ≠ .text ∧
      utf8Len left' + next.height < utf8Len left + task.height) ∨
    (∃ lexemes, s.step = { s with lexemes, start := s.current, control := .doing .text } ∧
      pending ≠ [] ∧ s.step.Agrees left) ∨
    ∃ lexemes fault,
      s.step = { s with lexemes, start := s.current, control := .stopped fault } ∧
      Lexing.ofText s.source = ⟨lexemes.reverse, fault⟩ := by
  have leads := act_leads ready
  have step := step_doing doing stands.parts
  generalize task.act left = act at leads step
  obtain ⟨w, width⟩ : ∃ w, s.width = w := ⟨_, rfl⟩
  rw [width] at leads
  -- The offsets follow what the act makes of the parts of the text.
  cases leads with
  | @leave next pending left width' ready' lower =>
    refine .inl ⟨next, pending, left, s.width, ?_, rfl, width ▸ ready', ?_, by omega⟩
    · rw [step, perform, ← stands.current]
    · rintro rfl
      exact Nat.not_lt_of_le task.height_le lower
  | @advance next pending rest c _ ready' lower =>
    refine .inl ⟨next, pending ++ [c], rest, c.utf8Size, ?_, by simp, ready', ?_, ?_⟩
    · rw [step, perform, stands.current]
      simp [Nat.add_assoc]
    · rintro rfl
      exact absurd ready'.pending_eq_nil (by simp)
    · have := c.utf8Size_pos
      rw [String.utf8Len_cons]
      omega
  | @atEnd next pending _ ready' lower =>
    refine .inl ⟨next, pending, [], 0, ?_, rfl, ready', ?_, by omega⟩
    · rw [step, perform, ← stands.current]
      rfl
    · rintro rfl
      exact Nat.not_lt_of_le task.height_le lower
  | @backup next pending left c ready' lower =>
    have back : s.width ≤ s.current ∧ s.current - s.width = utf8Len (before ++ pending) := by
      rw [width, stands.current]
      simp [← Nat.add_assoc]
    refine .inl ⟨next, pending, c :: left, 0, ?_, by simp, ready', ?_, ?_⟩
    · rw [step, perform, if_pos back.1, back.2]
    · rintro rfl
      have := task.height_le
      omega
    · have := c.utf8Size_le_four
      rw [String.utf8Len_cons]
      omega
  | @emit kind shape pending left _ spans known =>
    rw [perform, stands.emit] at step
    refine .inr (.inl ⟨_, step, spans.ne_nil, ?_⟩)
    rw [Agrees, step, ← agrees, finish_after_spans spans]
    simp [Scan.leave, known, stands.current_eq]
  | @ignore pending left _ ne white =>
    rw [perform] at step
    refine .inr (.inl ⟨_, step, ne, ?_⟩)
    rw [Agrees, step, ← agrees, Scan.after_append, Scan.after_blank white, ← stands.current_eq]
  | stop =>
    rw [perform, stands.emit] at step
    exact .inr (.inr ⟨_, _, step, agrees.ofText rfl⟩)
  | @fail fault shape pending left _ spans unknown =>
    rw [perform, stands.emit] at step
    refine .inr (.inr ⟨_, _, step, ?_⟩)
    have halted : ((between s.start s.lexemes).after (pending ++ left)).finish =
        ⟨.halted fault, s.start + (String.ofList pending).utf8ByteSize,
          ⟨⟨.error, String.ofList pending⟩, s.start⟩ :: s.lexemes⟩ := by
      rw [finish_after_spans spans]
      simp only [leave, List.reverse_reverse, unknown]
      rw [after_of_halted rfl]
      rfl
    exact agrees.ofText halted

end Step

/-! ## Runs -/

/-- The offsets are right for what is to be done, or the scan has stopped with the
lexemes of the text. -/
inductive Sound (s : ByteScan) : Prop
  | doing {task : Task} {before pending left : List Char} : s.control = .doing task →
      s.Stands before pending left → task.Ready pending left s.width →
      s.Agrees (pending ++ left) → Sound s
  | stopped {fault : Option LexicalFault} {before left : List Char} :
      s.control = .stopped fault → s.Stands before [] left →
      Lexing.ofText s.source = ⟨s.lexemes.reverse, fault⟩ → Sound s

/-- A bound of the steps until the scan stops. -/
def measure (s : ByteScan) : Nat :=
  match s.control with
  | .doing task =>
    7 * (s.source.utf8ByteSize - s.start) + (s.source.utf8ByteSize - s.current) + task.height + 1
  | _ => 0

theorem Stands.measure {s : ByteScan} {task : Task} {before pending left : List Char}
    (h : s.Stands before pending left) (doing : s.control = .doing task) :
    s.measure = 7 * (utf8Len pending + utf8Len left) + utf8Len left + task.height + 1 := by
  rw [ByteScan.measure, doing, h.size, h.start, h.current, String.utf8Len_append]
  simp only
  omega

theorem step_stopped {s : ByteScan} {fault : Option LexicalFault} (h : s.control = .stopped fault) :
    s.step = s := by
  rw [step, h]

theorem sound_ofText (source : String) : (ofText source).Sound :=
  have stands : (ofText source).Stands [] [] source.toList := ⟨rfl, rfl, rfl⟩
  .doing rfl stands .text rfl

section Sound

variable {s : ByteScan}

theorem Sound.step (h : s.Sound) : s.step.Sound := by
  cases h with
  | stopped control stands ends =>
    rw [step_stopped control]
    exact .stopped control stands ends
  | @doing task before pending left control stands ready agrees =>
    rcases step_cases control stands ready agrees with
      ⟨next, pending', left', width, step, same, ready', -⟩ | ⟨lexemes, step, -, agrees'⟩ |
      ⟨lexemes, fault, step, ends⟩
    · rw [step]
      exact .doing rfl (stands.moved same ..) ready' (same ▸ agrees)
    · rw [step] at agrees' ⊢
      exact .doing rfl (stands.cut ..) .text agrees'
    · rw [step]
      exact .stopped rfl (stands.cut ..) ends

/-- No step moves the start of the lexeme back, and one behind which the next lexeme is
looked for moves it on. -/
theorem Sound.start_step (h : s.Sound) : s.step.source = s.source ∧ s.start ≤ s.step.start ∧
    (s.step.control = .doing .text → s.start < s.step.start) := by
  cases h with
  | stopped control _ _ =>
    rw [step_stopped control, control]
    exact ⟨rfl, le_rfl, nofun⟩
  | @doing task before pending left control stands ready agrees =>
    rcases step_cases control stands ready agrees with
      ⟨next, _, _, width, step, -, -, other, -⟩ | ⟨lexemes, step, ne, -⟩ | ⟨lexemes, fault, step, -⟩
    · rw [step]
      exact ⟨rfl, le_rfl, fun e => absurd (Control.doing.inj e) other⟩
    · rw [step]
      exact ⟨rfl, stands.start_le, fun _ => stands.start_lt ne⟩
    · rw [step]
      exact ⟨rfl, stands.start_le, nofun⟩

theorem Sound.measure_step (h : s.Sound) {task : Task} (doing : s.control = .doing task) :
    s.step.measure < s.measure := by
  cases h with
  | stopped control _ _ => rw [control] at doing; cases doing
  | @doing task before pending left control stands ready agrees =>
    rw [stands.measure control]
    rcases step_cases control stands ready agrees with
      ⟨next, pending', left', width, step, same, -, -, lower⟩ | ⟨lexemes, step, ne, -⟩ |
      ⟨lexemes, fault, step, -⟩
    · rw [step, (stands.moved same ..).measure rfl]
      have := congrArg utf8Len same
      simp only [String.utf8Len_append] at this
      omega
    · rw [step, (stands.cut ..).measure rfl]
      have : 0 < utf8Len pending := Nat.pos_of_ne_zero (by simpa using ne)
      have : Task.text.height = 6 := rfl
      simp only [String.utf8Len_nil]
      omega
    · rw [step]
      exact Nat.succ_pos _

theorem Sound.after (h : s.Sound) (n : Nat) :
    (s.after n).Sound ∧ (s.after n).source = s.source := by
  induction n with
  | zero => exact ⟨h, rfl⟩
  | succ n ih => exact ⟨ih.1.step, ih.1.start_step.1.trans ih.2⟩

theorem Sound.not_lost (h : s.Sound) : s.control ≠ .lost := by
  cases h with
  | doing control _ _ _ => simp [control]
  | stopped control _ _ => simp [control]

theorem Sound.exists_stopped (h : s.Sound) :
    ∃ n ≤ s.measure, ∃ fault, (s.after n).control = .stopped fault := by
  induction bound : s.measure using Nat.strongRecOn generalizing s with
  | ind k ih =>
  subst bound
  cases control : s.control with
  | stopped fault => exact ⟨0, Nat.zero_le _, fault, control⟩
  | lost => exact absurd control h.not_lost
  | doing task =>
    have less := h.measure_step control
    obtain ⟨n, le, fault, stopped⟩ := ih _ less h.step rfl
    refine ⟨1 + n, by omega, fault, ?_⟩
    rw [after_add]
    exact stopped

theorem Sound.ofText_of_stopped (h : s.Sound) {fault : Option LexicalFault}
    (stopped : s.control = .stopped fault) :
    Lexing.ofText s.source = ⟨s.lexemes.reverse, fault⟩ := by
  cases h with
  | doing control _ _ _ => rw [control] at stopped; cases stopped
  | stopped control _ ends =>
    cases control.symm.trans stopped
    exact ends

theorem Sound.current_eq_start (h : s.Sound) (text : s.control = .doing .text) :
    s.current = s.start := by
  cases h with
  | stopped control _ _ => rw [control] at text; cases text
  | doing control stands ready _ =>
    cases control.symm.trans text
    obtain rfl := ready.pending_eq_nil
    rw [stands.start, stands.current, List.append_nil]

/-- Between two times that the next lexeme is looked for the scan moves on. -/
theorem Sound.current_lt (h : s.Sound) (text : s.control = .doing .text) {n : Nat}
    (again : (s.after (n + 1)).control = .doing .text) : s.current < (s.after (n + 1)).current := by
  have start_le (n : Nat) : s.start ≤ (s.after n).start := by
    induction n with
    | zero => exact le_rfl
    | succ n ih => exact ih.trans (h.after n).1.start_step.2.1
  rw [h.current_eq_start text, (h.after (n + 1)).1.current_eq_start again]
  exact Nat.lt_of_le_of_lt (start_le n) ((h.after n).1.start_step.2.2 again)

theorem Sound.valid (h : s.Sound) : s.start ≤ s.current ∧ s.current ≤ s.source.utf8ByteSize ∧
    String.Pos.Raw.IsValid s.source ⟨s.start⟩ ∧ String.Pos.Raw.IsValid s.source ⟨s.current⟩ := by
  obtain ⟨before, pending, left, stands⟩ : ∃ before pending left, s.Stands before pending left := by
    cases h with
    | doing _ stands _ _ => exact ⟨_, _, _, stands⟩
    | stopped _ stands _ => exact ⟨_, _, _, stands⟩
  exact ⟨stands.start_le, stands.current_le,
    isValid_of_toList_eq (stands.source.trans (List.append_assoc ..)) stands.start,
    isValid_of_toList_eq stands.source stands.current⟩

end Sound

/-! ## Taking back -/

/-- What the next step does, and what is left of the text there. -/
def Performs (s : ByteScan) (act : Act) (left : List Char) : Prop :=
  ∃ task front, s.control = .doing task ∧ splitAt? s.source.toList s.current = some (front, left) ∧
    task.act left = act

/-- The next step takes a character back. -/
def BacksUp (s : ByteScan) : Prop := ∃ next left, s.Performs (.backup next) left

/-- The next step passes the character. -/
def Passes (s : ByteScan) (c : Char) : Prop := ∃ next rest, s.Performs (.advance next) (c :: rest)

section Undone

variable {s : ByteScan}

/-- What is to be taken back has just been passed. -/
theorem Sound.passes_of_undo (h : s.Sound) {run : Run}
    (undo : s.step.control = .doing (.undo run)) :
    ∃ c, s.Passes c ∧ s.step.width = c.utf8Size ∧ s.step.current = s.current + c.utf8Size := by
  cases h with
  | stopped control _ _ => rw [step_stopped control, control] at undo; cases undo
  | @doing task before pending left control stands ready _ =>
    have step := step_doing control stands.parts
    have leads := act_leads ready
    have performs : s.Performs (task.act left) left := ⟨task, _, control, stands.parts, rfl⟩
    generalize task.act left = act at step leads performs
    rw [step] at undo ⊢
    obtain ⟨w, width⟩ : ∃ w, s.width = w := ⟨_, rfl⟩
    rw [width] at leads
    cases leads with
    | leave ready' lower =>
      cases undo
      have text : task = .text := by cases task <;> simp [Task.height] at lower ⊢
      subst text
      obtain ⟨front, c, e, -⟩ := ready'.exists_passed
      simp [ready.pending_eq_nil] at e
    | advance ready' lower => exact ⟨_, ⟨_, _, performs⟩, rfl, rfl⟩
    | atEnd ready' lower =>
      cases undo
      obtain ⟨-, c, -, zero⟩ := ready'.exists_passed
      exact absurd zero.symm (Nat.ne_of_gt c.utf8Size_pos)
    | @backup next _ _ _ ready' lower =>
      have other : next ≠ .undo run := by
        rintro rfl
        have := task.height_le
        simp only [Task.height] at this lower
        omega
      rw [perform] at undo
      split at undo <;> cases undo
      exact absurd rfl other
    | emit _ _ => rw [perform, stands.emit] at undo; cases undo
    | ignore _ _ => cases undo
    | stop => rw [perform, stands.emit] at undo; cases undo
    | fail _ _ => rw [perform, stands.emit] at undo; cases undo

/-- A step that takes a character back comes behind the one that has passed it, and before
one that takes none back. -/
theorem Sound.backup (h : s.Sound) (back : s.step.BacksUp) :
    ∃ c, s.Passes c ∧ s.step.width = c.utf8Size ∧ s.step.current = s.current + c.utf8Size ∧
      s.step.step.current = s.current ∧ ¬ s.step.step.BacksUp := by
  obtain ⟨next, left, task, front, control, parts, act⟩ := back
  obtain ⟨run, rfl, rfl⟩ := exists_undo act
  obtain ⟨c, passes, width, current⟩ := h.passes_of_undo control
  have step := step_doing control parts
  rw [act, perform, if_pos (by omega), width, current, Nat.add_sub_cancel] at step
  refine ⟨c, passes, width, current, by rw [step], ?_⟩
  rintro ⟨next, left, task, front, control', -, act'⟩
  rw [step] at control'
  obtain ⟨run', rfl, -⟩ := exists_undo act'
  cases control'

example : ((ofText "é ").after 3).control = .doing (.undo .word) ∧
    ((ofText "é ").after 2).current = 2 ∧ ((ofText "é ").after 3).current = 3 ∧
    ((ofText "é ").after 4).current = 2 := by decide +kernel

end Undone

end ByteScan

/-- **A scan by offsets is safe, and it ends.** However many steps it has made on whatever
text, the offset of the lexeme is not behind the other one, and both are offsets of the
text that are between two characters or at an end. A step that takes a character back
takes back exactly the one that the step before it has passed, and the next one takes
none back. Between two times that the next lexeme is looked for the scan moves on, and
it stops in a number of steps that the bytes of the text bound, with the lexemes and the
fault that a scan by characters has. -/
theorem byteScan_safe (source : String) :
    (∀ n, let s := (ByteScan.ofText source).after n
      s.control ≠ .lost ∧ s.start ≤ s.current ∧ s.current ≤ source.utf8ByteSize ∧
      String.Pos.Raw.IsValid source ⟨s.start⟩ ∧ String.Pos.Raw.IsValid source ⟨s.current⟩ ∧
      (s.BacksUp → ∃ m c, n = m + 1 ∧
        let before := (ByteScan.ofText source).after m
        before.Passes c ∧ s.width = c.utf8Size ∧ s.current = before.current + c.utf8Size ∧
          s.step.current = before.current ∧ ¬ s.step.BacksUp) ∧
      (s.control = .doing .text → ∀ m, let later := s.after (m + 1)
        later.control = .doing .text → s.current < later.current)) ∧
    ∃ n ≤ 8 * source.utf8ByteSize + 7, let s := (ByteScan.ofText source).after n
      s.control = .stopped (Lexing.ofText source).fault ∧
        s.lexemes.reverse = (Lexing.ofText source).lexemes := by
  have start := ByteScan.sound_ofText source
  refine ⟨fun n => ?_, ?_⟩
  · obtain ⟨sound, same⟩ := start.after n
    have valid := sound.valid
    rw [same] at valid
    refine ⟨sound.not_lost, valid.1, valid.2.1, valid.2.2.1, valid.2.2.2, fun back => ?_,
      fun text m again => sound.current_lt text again⟩
    cases n with
    | zero =>
      -- The first step takes nothing back.
      obtain ⟨next, left, task, front, control, -, act⟩ := back
      obtain ⟨run, rfl, -⟩ := ByteScan.exists_undo act
      cases control
    | succ m =>
      obtain ⟨c, undone⟩ := (start.after m).1.backup back
      exact ⟨m, c, rfl, undone⟩
  · obtain ⟨n, bound, fault, stopped⟩ := start.exists_stopped
    obtain ⟨sound, same⟩ := start.after n
    have ends := sound.ofText_of_stopped stopped
    rw [same] at ends
    have whole : (ByteScan.ofText source).measure = 8 * source.utf8ByteSize + 7 := by
      simp only [ByteScan.measure, ByteScan.ofText, ByteScan.Task.height]
      omega
    refine ⟨n, whole ▸ bound, ?_⟩
    rw [show Lexing.ofText source = _ from ends]
    exact ⟨stopped, rfl⟩

end SelectLang
