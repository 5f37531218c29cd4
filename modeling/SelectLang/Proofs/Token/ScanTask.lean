import SelectLang.Proofs.Token.Lexemes
import SelectLang.Token.ByteScan

/-!
# What a scan by offsets has passed

A scan by offsets keeps none of the characters that it has passed; its task stands for
what they are. Here it is said for each task what it stands for. From there on one step
leads to a task with what that stands for, and where it makes a lexeme, this has the
text and the kind of the one that a scan by characters makes there.

* `Shape.of? piece`: the shape that a scan by characters gives to the piece.
* `Run.Begun`, `Run.Ended`: what has been passed of a run, and what is left of the text,
  where the run goes on and where it ends.
* `Task.Ready task pending left width`: what has been passed since the last lexeme, what
  is left, and the bytes of the last character, where the task is to be done.
* `Task.height`: how far a task is from a lexeme.
* `Act.Leads`: what an act makes of what has been passed and what is left.

Results:
* `Run.extend?_shape`: a run goes on as its shape does.
* `ready_beginning`: what begins with a character is ready to be passed.
* `act_leads`: a task that is ready leads to one that is, or to the right lexeme.
* `exists_undo`: one task alone takes a character back, and before the end of a run.
-/
namespace SelectLang

open SelectLang.Unicode SelectLang.Token

/-! ## Pieces -/

namespace Shape

def of? : List Char → Option Shape
  | [] => none
  | c :: run => (opening? c).bind fun first => first.grown? run

theorem of?_singleton {c : Char} {shape : Shape} (h : opening? c = some shape) :
    of? [c] = some shape := by
  simp [of?, h, grown?]

theorem of?_append_singleton {piece : List Char} {shape longer : Shape} {c : Char}
    (h : of? piece = some shape) (further : shape.extend? c = some longer) :
    of? (piece ++ [c]) = some longer := by
  cases piece with
  | nil => cases h
  | cons d run =>
    obtain ⟨first, opened, grown⟩ := Option.bind_eq_some_iff.mp h
    rw [List.cons_append, of?, opened, Option.bind_some, grown?_append grown, grown?_cons further]
    rfl

theorem spans_of {piece rest : List Char} {shape : Shape} (h : of? piece = some shape)
    (ended : ∀ c, rest.head? = some c → shape.extend? c = none) : shape.Spans piece rest := by
  cases piece with
  | nil => cases h
  | cons c run =>
    obtain ⟨first, opened, grown⟩ := Option.bind_eq_some_iff.mp h
    exact ⟨⟨c, run, first, rfl, opened, grown⟩, ended⟩

theorem Spans.ne_nil {shape : Shape} {piece rest : List Char} (h : shape.Spans piece rest) :
    piece ≠ [] := by
  obtain ⟨c, run, first, rfl, -⟩ := h.grown
  simp

end Shape

namespace ByteScan

open Shape

/-- The shape of the piece that the run passes, if that becomes a lexeme. -/
def Run.shape? : Run → Option Shape
  | .comment => some .comment
  | .word => some .word
  | .numeral point => some (.numeral point)
  | .blank => none

/-- Where one more character of a run is to be passed: what has been passed of it, and
what is left of the text. -/
inductive Run.Begun : Run → List Char → List Char → Prop
  | hyphens {rest : List Char} : Begun .comment [] ('-' :: '-' :: rest)
  | hyphen {rest : List Char} : Begun .comment ['-'] ('-' :: rest)
  | letter {c : Char} {rest : List Char} : isLetter c → Begun .word [] (c :: rest)
  | digit {c : Char} {rest : List Char} : c.isDigit → Begun (.numeral false) [] (c :: rest)
  | white {c : Char} {rest : List Char} : isWhiteSpace c → Begun .blank [] (c :: rest)
  | piece {run : Run} {shape : Shape} {pending left : List Char} : run.shape? = some shape →
      of? pending = some shape → Begun run pending left
  | gap {pending left : List Char} : pending ≠ [] → (∀ c ∈ pending, isWhiteSpace c) →
      Begun .blank pending left

/-- Where a run ends. -/
inductive Run.Ended : Run → List Char → List Char → Prop
  | piece {run : Run} {shape : Shape} {pending left : List Char} : run.shape? = some shape →
      shape.Spans pending left → Ended run pending left
  | gap {pending left : List Char} : pending ≠ [] → (∀ c ∈ pending, isWhiteSpace c) →
      Ended .blank pending left

theorem Run.extend?_shape {run : Run} {shape : Shape} (h : run.shape? = some shape) (c : Char) :
    (∀ longer, run.extend? c = some longer →
      ∃ next, longer.shape? = some next ∧ shape.extend? c = some next) ∧
      (run.extend? c = none → shape.extend? c = none) := by
  cases run with
  | comment =>
    cases h
    by_cases lineEnd : isLineEnd c <;> simp [Run.extend?, Shape.extend?, Run.shape?, lineEnd]
  | word =>
    cases h
    by_cases part : isWordPart c <;> simp [Run.extend?, Shape.extend?, Run.shape?, part]
  | numeral point =>
    cases h
    by_cases digit : c.isDigit
    · simp [Run.extend?, Shape.extend?, Run.shape?, digit]
    · by_cases other : c = '.' ∧ point = false <;>
        simp [Run.extend?, Shape.extend?, Run.shape?, digit, other]
  | blank => cases h

theorem Run.Begun.extend {run longer : Run} {pending rest : List Char} {c : Char}
    (h : run.Begun pending (c :: rest)) (further : run.extend? c = some longer) :
    longer.Begun (pending ++ [c]) rest := by
  cases h with
  | hyphens =>
    cases further
    exact .hyphen
  | hyphen =>
    cases further
    exact .piece rfl rfl
  | letter letter =>
    simp only [Run.extend?, isWordPart, letter, Bool.true_or, if_true, Option.some.injEq] at further
    subst further
    exact .piece rfl (of?_singleton (opening?_letter letter))
  | digit digit =>
    simp only [Run.extend?, digit, if_true, Option.some.injEq] at further
    subst further
    exact .piece rfl (of?_singleton (opening?_digit digit))
  | white white =>
    simp only [Run.extend?, white, if_true, Option.some.injEq] at further
    subst further
    exact .gap (by simp) (by simpa using white)
  | piece shape passed =>
    obtain ⟨next, shape', goes⟩ := (Run.extend?_shape shape c).1 longer further
    exact .piece shape' (of?_append_singleton passed goes)
  | gap ne white =>
    simp only [Run.extend?, Option.ite_none_right_eq_some, Option.some.injEq] at further
    obtain ⟨also, rfl⟩ := further
    refine .gap (by simp) fun d hd => ?_
    rcases List.mem_append.mp hd with hd | hd
    · exact white d hd
    · rwa [List.mem_singleton.mp hd]

theorem Run.Begun.ended {run : Run} {pending left : List Char} (h : run.Begun pending left)
    (last : ∀ c, left.head? = some c → run.extend? c = none) : run.Ended pending left := by
  cases h with
  | hyphens => cases last '-' rfl
  | hyphen => cases last '-' rfl
  | @letter c rest letter =>
    have := last c rfl
    simp [Run.extend?, isWordPart, letter] at this
  | @digit c rest digit =>
    have := last c rfl
    simp [Run.extend?, digit] at this
  | @white c rest white =>
    have := last c rfl
    simp [Run.extend?, white] at this
  | piece shape passed =>
    exact .piece shape (spans_of passed fun c hc => (Run.extend?_shape shape c).2 (last c hc))
  | gap ne white => exact .gap ne white

/-- The text begins with the first character of a symbol, and with no comment. -/
inductive SymbolAhead : List Char → Prop
  | mk {c : Char} {rest : List Char} : symbols.isStart c → ¬ (c = '-' ∧ rest.head? = some '-') →
      SymbolAhead (c :: rest)

/-- The lookup finds the symbol, of one character. -/
theorem SymbolAhead.exists_longest {text : List Char} (h : SymbolAhead text) :
    ∃ kind, symbols.longest? maxSymbolLength text = some (1, kind) := by
  obtain ⟨start, -⟩ := h
  next c rest =>
  obtain ⟨kind, mem⟩ := exists_symbol start
  cases found : symbols.longest? maxSymbolLength (c :: rest) with
  | none =>
    have missed := SymbolTable.longest?_eq_none found 1 (by decide) (by decide) (by simp)
    rw [List.take_succ_cons, List.take_zero, ← String.singleton_eq_ofList] at missed
    exact absurd missed (SymbolTable.lookup_ne_none mem)
  | some best =>
    obtain ⟨length, kind⟩ := best
    obtain ⟨positive, bound, -⟩ := SymbolTable.longest?_eq_some found
    obtain rfl : length = 1 := Nat.le_antisymm bound positive
    exact ⟨kind, rfl⟩

theorem SymbolAhead.spans {c : Char} {rest : List Char} (h : SymbolAhead (c :: rest))
    {kind : Token.Kind} (found : symbols.longest? maxSymbolLength (c :: rest) = some (1, kind)) :
    ∃ shape : Shape, shape.Spans [c] rest ∧ shape.kind [c] = .ok kind := by
  cases h with
  | mk start single =>
    obtain ⟨-, -, -, entry, -⟩ := SymbolTable.longest?_eq_some found
    refine spans_symbol ?_ single
    rw [String.singleton_eq_ofList]
    exact Token.Kind.mem_of_lookup entry

/-! ## What a task finds -/

/-- What has been passed since the last lexeme, what is left of the text, and the bytes
of the character passed last, where the task is to be done. -/
inductive Task.Ready : Task → List Char → List Char → Nat → Prop
  | text {left : List Char} {width : Nat} : Ready .text [] left width
  | run {run : Run} {pending left : List Char} {width : Nat} : run.Begun pending left →
      Ready (.run run) pending left width
  | undo {run : Run} {pending left : List Char} {c : Char} : run.Ended pending (c :: left) →
      Ready (.undo run) (pending ++ [c]) left c.utf8Size
  | close {run : Run} {pending left : List Char} {width : Nat} : run.Ended pending left →
      Ready (.close run) pending left width
  | opening {rest : List Char} {width : Nat} : Ready .opening [] (Quoted.mark :: rest) width
  | quoted {pending left : List Char} {width : Nat} : of? pending = some (.quoted false) →
      Ready .quoted pending left width
  | mark {pending left : List Char} {width : Nat} : of? pending = some (.quoted true) →
      Ready .mark pending left width
  | symbol {left : List Char} {width : Nat} : SymbolAhead left → Ready .symbol [] left width
  | taking {c : Char} {rest : List Char} {kind : Token.Kind} {width : Nat} :
      SymbolAhead (c :: rest) → symbols.longest? maxSymbolLength (c :: rest) = some (1, kind) →
      Ready (.taking 1 kind) [] (c :: rest) width
  | taken {kind : Token.Kind} {shape : Shape} {pending left : List Char} {width : Nat} :
      shape.Spans pending left → shape.kind pending = .ok kind →
      Ready (.taking 0 kind) pending left width
  | keep {kind : Token.Kind} {shape : Shape} {pending left : List Char} {width : Nat} :
      shape.Spans pending left → shape.kind pending = .ok kind →
      Ready (.keep kind) pending left width
  | passing {c : Char} {rest : List Char} {width : Nat} : opening? c = some .stray →
      Ready (.passing .unrecognizedCharacter) [] (c :: rest) width
  | refuse {fault : LexicalFault} {shape : Shape} {pending left : List Char} {width : Nat} :
      shape.Spans pending left → shape.kind pending = .error fault →
      Ready (.refuse fault) pending left width

theorem Task.Ready.pending_eq_nil {pending left : List Char} {width : Nat}
    (h : Task.text.Ready pending left width) : pending = [] := by
  cases h
  rfl

theorem Task.Ready.exists_passed {run : Run} {pending left : List Char} {width : Nat}
    (h : (Task.undo run).Ready pending left width) :
    ∃ front c, pending = front ++ [c] ∧ width = c.utf8Size := by
  cases h
  exact ⟨_, _, rfl, rfl⟩

theorem ready_beginning (c : Char) (rest : List Char) (width : Nat) :
    (Task.beginning c rest).Ready [] (c :: rest) width := by
  unfold Task.beginning
  split
  · next hyphens =>
    obtain ⟨rfl, second⟩ := hyphens
    obtain ⟨rest, rfl⟩ := List.head?_eq_some_iff.mp second
    exact .run .hyphens
  next single =>
  split
  · next mark =>
    subst mark
    exact .opening
  next mark =>
  split
  · next letter => exact .run (.letter letter)
  next letter =>
  split
  · next digit => exact .run (.digit digit)
  next digit =>
  split
  · next white => exact .run (.white white)
  next white =>
  split
  · next start => exact .symbol ⟨start, single⟩
  · next start =>
    have hyphen : c ≠ '-' := by
      rintro rfl
      exact start (by decide)
    exact .passing (by simp [opening?, hyphen, mark, letter, digit, white, start])

/-! ## What a step can do -/

/-- A bound of the steps until a lexeme is made, in which a character that has been
passed may be taken back. -/
def Task.height : Task → Nat
  | text => 6
  | run _ => 5
  | undo _ => 5
  | close _ => 0
  | opening => 1
  | quoted => 1
  | mark => 1
  | symbol => 2
  | taking _ _ => 1
  | keep _ => 0
  | passing _ => 0
  | refuse _ => 0

theorem Task.height_le (task : Task) : task.height ≤ Task.text.height := by
  cases task <;> simp [Task.height]

theorem height_beginning (c : Char) (rest : List Char) :
    (Task.beginning c rest).height < Task.text.height := by
  unfold Task.beginning
  repeat' split
  all_goals simp [Task.height]

/-- What the act does with what has been passed and what is left of the text. -/
inductive Act.Leads (task : Task) : Act → List Char → List Char → Nat → Prop
  | leave {next : Task} {pending left : List Char} {width : Nat} :
      next.Ready pending left width → next.height < task.height →
      Leads task (.leave next) pending left width
  | advance {next : Task} {pending rest : List Char} {c : Char} {width : Nat} :
      next.Ready (pending ++ [c]) rest c.utf8Size → next.height ≤ task.height →
      Leads task (.advance next) pending (c :: rest) width
  | atEnd {next : Task} {pending : List Char} {width : Nat} :
      next.Ready pending [] 0 → next.height < task.height →
      Leads task (.advance next) pending [] width
  | backup {next : Task} {pending left : List Char} {c : Char} :
      next.Ready pending (c :: left) 0 → next.height + 4 < task.height →
      Leads task (.backup next) (pending ++ [c]) left c.utf8Size
  | emit {kind : String → Token.Kind} {shape : Shape} {pending left : List Char} {width : Nat} :
      shape.Spans pending left → shape.kind pending = .ok (kind (String.ofList pending)) →
      Leads task (.emit kind) pending left width
  | ignore {pending left : List Char} {width : Nat} : pending ≠ [] →
      (∀ c ∈ pending, isWhiteSpace c) → Leads task .ignore pending left width
  | stop {width : Nat} : Leads task (.stop .endOfInput none) [] [] width
  | fail {fault : LexicalFault} {shape : Shape} {pending left : List Char} {width : Nat} :
      shape.Spans pending left → shape.kind pending = .error fault →
      Leads task (.stop .error (some fault)) pending left width

theorem act_leads {task : Task} {pending left : List Char} {width : Nat}
    (h : task.Ready pending left width) : (task.act left).Leads task pending left width := by
  cases h with
  | text =>
    cases left with
    | nil => exact .stop
    | cons c rest =>
      exact .leave (ready_beginning c rest width) (height_beginning c rest)
  | @run run _ _ _ begun =>
    cases left with
    | nil => exact .atEnd (.close (begun.ended nofun)) (by simp [Task.height])
    | cons c rest =>
      rw [Task.act]
      cases further : run.extend? c with
      | some longer => exact .advance (.run (begun.extend further)) (by simp [Task.height])
      | none =>
        refine .advance (.undo (begun.ended fun d hd => ?_)) (by simp [Task.height])
        cases hd
        exact further
  | undo ended => exact .backup (.close ended) (by simp [Task.height])
  | @close run _ _ _ ended =>
    cases ended with
    | piece shape spans =>
      cases run with
      | blank => cases shape
      | _ => cases shape; exact .emit spans rfl
    | gap ne white => exact .ignore ne white
  | opening => exact .advance (.quoted rfl) (by simp [Task.height])
  | quoted opened =>
    cases left with
    | nil => exact .atEnd (.refuse (spans_of opened nofun) rfl) (by simp [Task.height])
    | cons c rest =>
      rw [Task.act]
      split
      · next mark =>
        subst mark
        exact .advance (.mark (of?_append_singleton opened (extend?_quoted_mark _)))
          (by simp [Task.height])
      · next other =>
        exact .advance (.quoted (of?_append_singleton opened (extend?_quoted other _)))
          (by simp [Task.height])
  | mark closed =>
    rw [Task.act]
    split
    · next second =>
      obtain ⟨rest, rfl⟩ := List.head?_eq_some_iff.mp second
      exact .advance (.quoted (of?_append_singleton closed (extend?_quoted_mark _)))
        (by simp [Task.height])
    · next last =>
      refine .leave (.keep (spans_of closed fun c hc => ?_) rfl) (by simp [Task.height])
      exact extend?_quoted (fun e => last (e ▸ hc)) true
  | symbol ahead =>
    obtain ⟨kind, found⟩ := ahead.exists_longest
    rw [Task.act, found]
    cases left with
    | nil => cases ahead
    | cons c rest => exact .leave (.taking ahead found) (by simp [Task.height])
  | taking ahead found =>
    obtain ⟨shape, spans, known⟩ := ahead.spans found
    exact .advance (.taken spans known) (by simp [Task.height])
  | taken spans known => exact .leave (.keep spans known) (by simp [Task.height])
  | keep spans known => exact .emit spans known
  | passing stray =>
    exact .advance (.refuse (spans_of (of?_singleton stray) fun _ _ => rfl) rfl)
      (by simp [Task.height])
  | refuse spans unknown => exact .fail spans unknown

theorem exists_undo {task next : Task} {left : List Char} (h : task.act left = .backup next) :
    ∃ run, task = .undo run ∧ next = .close run := by
  cases task with
  | undo run => cases h; exact ⟨run, rfl, rfl⟩
  | close run => cases run <;> cases h
  | text => cases left <;> cases h
  | run run =>
    cases left with
    | nil => cases h
    | cons c rest => cases further : run.extend? c <;> simp [Task.act, further] at h
  | quoted =>
    cases left with
    | nil => cases h
    | cons c rest => by_cases mark : c = Quoted.mark <;> simp [Task.act, mark] at h
  | mark => by_cases second : left.head? = some Quoted.mark <;> simp [Task.act, second] at h
  | symbol =>
    cases found : symbols.longest? maxSymbolLength left <;> simp [Task.act, found] at h
  | taking more kind => cases more <;> cases h
  | _ => cases h

end ByteScan

end SelectLang
