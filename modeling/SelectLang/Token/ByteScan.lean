import SelectLang.Token.Scan

/-!
# Scanning by offsets

A scan that keeps no characters but two byte offsets into the text, of the first
character of the lexeme that is under way and of the next character to be looked at.
It works in small steps: it passes one character, takes back the one that it has just
passed, or makes a lexeme of the text between the two offsets. What it asks of the
text are the parts in front of an offset and behind it; where the offset is not
between two characters there are none, and the scan is lost.

* `splitAt?`: the two parts of a text at a byte offset.
* `Task`: what a scan is about to do.
* `Task.act`: how it does that with what is left of the text.
* `ByteScan.step`: one step.
* `ByteScan.after`: a number of steps.

Results:
* `after_add`: steps behind other steps.
* `step_doing`: one step by the task and what is left of the text.
-/
namespace SelectLang

open SelectLang.Unicode

/-- The parts of a text in front of a byte offset and behind it, if the offset is
between two characters or at an end. -/
def splitAt? : List Char → Nat → Option (List Char × List Char)
  | text, 0 => some ([], text)
  | [], _ + 1 => none
  | c :: rest, n + 1 =>
    if c.utf8Size ≤ n + 1 then
      (splitAt? rest (n + 1 - c.utf8Size)).map fun parts => (c :: parts.1, parts.2)
    else none

namespace ByteScan

/-- A loop that passes characters as long as they belong to one piece. -/
inductive Run
  | comment
  | word
  /-- Digits, with or without a point among them so far. -/
  | numeral (point : Bool)
  | blank
  deriving DecidableEq

/-- The loop behind one more character, if the character belongs to the piece. -/
def Run.extend? (run : Run) (c : Char) : Option Run :=
  match run with
  | .comment => if isLineEnd c then none else some .comment
  | .word => if isWordPart c then some .word else none
  | .numeral point =>
    if c.isDigit then some (.numeral point)
    else if c = '.' ∧ point = false then some (.numeral true)
    else none
  | .blank => if isWhiteSpace c then some .blank else none

/-- What a scan is about to do. -/
inductive Task
  /-- To see what comes next. -/
  | text
  /-- To pass one more character of a run. -/
  | run (run : Run)
  /-- To take back the character that did not belong to the run. -/
  | undo (run : Run)
  /-- To end the run. -/
  | close (run : Run)
  /-- To pass the opening quote of a string. -/
  | opening
  /-- To pass one more character of a string. -/
  | quoted
  /-- Behind a quote, to see whether another one follows. -/
  | mark
  /-- To look a symbol up. -/
  | symbol
  /-- To pass so many more characters of the symbol. -/
  | taking (left : Nat) (kind : Token.Kind)
  /-- To make a lexeme. -/
  | keep (kind : Token.Kind)
  /-- To pass the character that begins no lexeme. -/
  | passing (fault : LexicalFault)
  /-- To stop with an error. -/
  | refuse (fault : LexicalFault)
  deriving DecidableEq

inductive Act
  /-- Moves no offset. -/
  | leave (next : Task)
  /-- Passes the next character, if there is one. -/
  | advance (next : Task)
  /-- Takes back what was passed last. -/
  | backup (next : Task)
  /-- Makes a lexeme, of a kind that may go by its text. -/
  | emit (kind : String → Token.Kind)
  /-- Makes no lexeme of the text between the offsets. -/
  | ignore
  /-- Makes the last lexeme. -/
  | stop (kind : Token.Kind) (fault : Option LexicalFault)

def Run.act : Run → Act
  | .comment => .emit fun _ => .comment
  | .word => .emit ReservedWord.kindOf
  | .numeral _ => .emit fun _ => .numericLiteral
  | .blank => .ignore

namespace Task

/-- What the character, with the text behind it, is the beginning of. -/
def beginning (c : Char) (rest : List Char) : Task :=
  if c = '-' ∧ rest.head? = some '-' then run .comment
  else if c = Quoted.mark then opening
  else if isLetter c then run .word
  else if c.isDigit then run (.numeral false)
  else if isWhiteSpace c then run .blank
  else if symbols.isStart c then symbol
  else passing .unrecognizedCharacter

/-- What is done where the text is left. -/
def act (task : Task) (left : List Char) : Act :=
  match task with
  | text =>
    match left with
    | [] => .stop .endOfInput none
    | c :: rest => .leave (beginning c rest)
  | run r =>
    match left with
    | [] => .advance (close r)
    | c :: _ =>
      match r.extend? c with
      | some longer => .advance (run longer)
      | none => .advance (undo r)
  | undo r => .backup (close r)
  | close r => r.act
  | opening => .advance quoted
  | quoted =>
    match left with
    | [] => .advance (refuse .unterminatedString)
    | c :: _ => if c = Quoted.mark then .advance mark else .advance quoted
  | mark =>
    if left.head? = some Quoted.mark then .advance quoted else .leave (keep .stringLiteral)
  | symbol =>
    match symbols.longest? maxSymbolLength left with
    | some (length, kind) => .leave (taking length kind)
    | none => .leave (passing .unrecognizedSymbol)
  | taking 0 kind => .leave (keep kind)
  | taking (more + 1) kind => .advance (taking more kind)
  | keep kind => .emit fun _ => kind
  | passing fault => .advance (refuse fault)
  | refuse fault => .stop .error (some fault)

end Task

/-- Whether a scan goes on. -/
inductive Control
  | doing (task : Task)
  | stopped (fault : Option LexicalFault)
  /-- An offset was not one of the text, or before its beginning. -/
  | lost
  deriving DecidableEq

end ByteScan

/-- A scan by offsets: the text, the lexemes so far with the last one first, the
offsets of the lexeme and of the next character, the bytes of the character passed
last, and whether it goes on. -/
structure ByteScan where
  source : String
  lexemes : List Lexeme
  start : Nat
  current : Nat
  width : Nat
  control : ByteScan.Control

namespace ByteScan

def ofText (source : String) : ByteScan := ⟨source, [], 0, 0, 0, .doing .text⟩

/-- The text between the two offsets. -/
def literal? (s : ByteScan) : Option String :=
  (splitAt? s.source.toList s.current).bind fun whole =>
    (splitAt? whole.1 s.start).map fun parts => String.ofList parts.2

/-- Makes a lexeme of the text between the two offsets. -/
def emit (s : ByteScan) (kind : String → Token.Kind) (next : Control) : ByteScan :=
  match s.literal? with
  | some literal =>
    { s with
      lexemes := ⟨⟨kind literal, literal⟩, s.start⟩ :: s.lexemes
      start := s.current
      control := next }
  | none => { s with control := .lost }

def perform (s : ByteScan) (left : List Char) : Act → ByteScan
  | .leave next => { s with control := .doing next }
  | .advance next =>
    let width := (left.head?.map Char.utf8Size).getD 0
    { s with current := s.current + width, width, control := .doing next }
  | .backup next =>
    if s.width ≤ s.current then
      { s with current := s.current - s.width, width := 0, control := .doing next }
    else { s with control := .lost }
  | .emit kind => s.emit kind (.doing .text)
  | .ignore => { s with start := s.current, control := .doing .text }
  | .stop kind fault => s.emit (fun _ => kind) (.stopped fault)

def step (s : ByteScan) : ByteScan :=
  match s.control with
  | .doing task =>
    match splitAt? s.source.toList s.current with
    | some (_, left) => s.perform left (task.act left)
    | none => { s with control := .lost }
  | _ => s

def after (s : ByteScan) : Nat → ByteScan
  | 0 => s
  | n + 1 => (s.after n).step

theorem after_add (s : ByteScan) (m n : Nat) : s.after (m + n) = (s.after m).after n := by
  induction n with
  | zero => rfl
  | succ n ih => rw [← Nat.add_assoc, after, after, ih]

theorem step_doing {s : ByteScan} {task : Task} {front left : List Char}
    (h : s.control = .doing task)
    (parts : splitAt? s.source.toList s.current = some (front, left)) :
    s.step = s.perform left (task.act left) := by
  simp only [step, h, parts]

end ByteScan

end SelectLang
