import SelectLang.Token.ReservedWord
import SelectLang.Token.SymbolTable
import SelectLang.Unicode.Alphabetic
import SelectLang.Unicode.NumberCategory
import SelectLang.Unicode.WhiteSpace

/-!
# Scanning

A text is scanned one character at a time. Between two lexemes white space is
passed over, and any other character begins a lexeme, whose shape says which
characters go on with it. The first character that does not go on ends the
lexeme; the lexeme then gets its kind and the character is looked at again. A
lexeme that has no kind is an error and ends the scan, and the rest of the text
is not read.

The state after a text is the fold of `Scan.push` over its characters, so a scan
of `s ++ t` goes on from the state after `s`.

Results:
* `after_append`: that law.
* `after_of_halted`: an error ends the scan for good.
-/
namespace SelectLang

open SelectLang.Unicode

/-- Why a scan stops before the end of the text. -/
inductive LexicalFault
  | unrecognizedCharacter
  | unrecognizedSymbol
  | unterminatedString
  deriving DecidableEq

/-- What is noted of a fault. -/
def LexicalFault.reason : LexicalFault → String
  | .unrecognizedCharacter => "unrecognized character"
  | .unrecognizedSymbol => "unrecognized symbol"
  | .unterminatedString => "unterminated string literal"

/-- Whether a character can begin a word. -/
def isLetter (c : Char) : Bool := isAlphabetic c || c = '_'

/-- Whether a character can go on with a word. -/
def isWordPart (c : Char) : Bool := isLetter c || isNumber c

/-- Whether a character ends a line and with it a comment. -/
def isLineEnd (c : Char) : Bool := c = '\n' || c = '\r'

/-! ## Shapes of lexemes -/

/-- What the characters of a lexeme so far make it. -/
inductive Shape
  /-- One hyphen, which a second one turns into a comment. -/
  | hyphen
  | symbol
  | comment
  | word
  /-- Digits, with or without a point among them. -/
  | numeral (point : Bool)
  /-- A string from its first quote on. It is closed behind a second quote, and
  open again if a third one follows that directly. -/
  | quoted (closed : Bool)
  /-- A character that begins no lexeme. -/
  | stray
  deriving DecidableEq

namespace Shape

/-- The shape of a lexeme that begins with the character; white space begins
none. -/
def opening? (c : Char) : Option Shape :=
  if c = '-' then some .hyphen
  else if c = Quoted.mark then some (.quoted false)
  else if isLetter c then some .word
  else if c.isDigit then some (.numeral false)
  else if isWhiteSpace c then none
  else if symbols.isStart c then some .symbol
  else some .stray

/-- The shape of the lexeme with one more character, if the character goes on
with it. -/
def extend? (shape : Shape) (c : Char) : Option Shape :=
  match shape with
  | .hyphen => if c = '-' then some .comment else none
  | .symbol => none
  | .comment => if isLineEnd c then none else some .comment
  | .word => if isWordPart c then some .word else none
  | .numeral point =>
    if c.isDigit then some (.numeral point)
    else if c = '.' ∧ point = false then some (.numeral true)
    else none
  | .quoted closed =>
    if c = Quoted.mark then some (.quoted !closed)
    else if closed then none
    else some (.quoted false)
  | .stray => none

/-- The kind of a finished lexeme, or why it is none. -/
def kind (shape : Shape) (text : List Char) : Except LexicalFault Token.Kind :=
  match shape with
  | .hyphen | .symbol =>
    let cut := symbols.cut maxSymbolLength text
    if cut.kind = .error then .error .unrecognizedSymbol else .ok cut.kind
  | .comment => .ok .comment
  | .word => .ok (ReservedWord.kindOf (String.ofList text))
  | .numeral _ => .ok .numericLiteral
  | .quoted true => .ok .stringLiteral
  | .quoted false => .error .unterminatedString
  | .stray => .error .unrecognizedCharacter

end Shape

/-! ## The scan -/

/-- A token and the number of bytes of the source text before it. -/
structure Lexeme where
  token : Token
  start : Nat
  deriving DecidableEq

/-- Where a scan stands: between lexemes, inside one with its characters so far,
the last one first, or stopped. -/
inductive Scan.State
  | between
  | inside (shape : Shape) (pending : List Char)
  | halted (fault : LexicalFault)
  deriving DecidableEq

/-- A scan: where it stands, the bytes before the lexeme that it is inside of,
and the lexemes so far, the last one first. -/
structure Scan where
  state : Scan.State
  start : Nat
  lexemes : List Lexeme
  deriving DecidableEq

namespace Scan

def initial : Scan := ⟨.between, 0, []⟩

/-- Ends the lexeme that the scan is inside of. -/
def leave (s : Scan) : Scan :=
  match s.state with
  | .inside shape pending =>
    let literal := String.ofList pending.reverse
    let after := s.start + literal.utf8ByteSize
    match shape.kind pending.reverse with
    | .ok kind => ⟨.between, after, ⟨⟨kind, literal⟩, s.start⟩ :: s.lexemes⟩
    | .error fault => ⟨.halted fault, after, ⟨⟨.error, literal⟩, s.start⟩ :: s.lexemes⟩
  | _ => s

/-- Begins a lexeme with the character, or passes over it. -/
def enter (s : Scan) (c : Char) : Scan :=
  match s.state with
  | .between =>
    match Shape.opening? c with
    | some shape => { s with state := .inside shape [c] }
    | none => { s with start := s.start + c.utf8Size }
  | _ => s

def push (s : Scan) (c : Char) : Scan :=
  match s.state with
  | .inside shape pending =>
    match shape.extend? c with
    | some longer => { s with state := .inside longer (c :: pending) }
    | none => s.leave.enter c
  | _ => s.enter c

def after (s : Scan) (text : List Char) : Scan := text.foldl push s

/-- Ends the scan at the end of the text, with the end token unless the scan was
stopped. -/
def finish (s : Scan) : Scan :=
  let t := s.leave
  match t.state with
  | .halted _ => t
  | _ => { t with lexemes := ⟨Token.atEnd, t.start⟩ :: t.lexemes }

def fault? (s : Scan) : Option LexicalFault :=
  match s.state with
  | .halted fault => some fault
  | _ => none

end Scan

/-- What comes of scanning a text: its lexemes in order, and the fault of the
last one if that is an error. -/
structure Lexing where
  lexemes : List Lexeme
  fault : Option LexicalFault
  deriving DecidableEq

namespace Lexing

def ofText (source : String) : Lexing :=
  let s := (Scan.initial.after source.toList).finish
  ⟨s.lexemes.reverse, s.fault?⟩

def tokens (l : Lexing) : List Token := l.lexemes.map (·.token)

end Lexing

def lex (source : String) : List Token := (Lexing.ofText source).tokens

namespace Scan

@[simp]
theorem after_nil (s : Scan) : s.after [] = s := rfl

@[simp]
theorem after_cons (s : Scan) (c : Char) (text : List Char) :
    s.after (c :: text) = (s.push c).after text := rfl

theorem after_append (s : Scan) (a b : List Char) : s.after (a ++ b) = (s.after a).after b :=
  List.foldl_append

theorem after_of_halted {s : Scan} {fault : LexicalFault} (h : s.state = .halted fault)
    (text : List Char) : s.after text = s := by
  induction text with
  | nil => rfl
  | cons c rest ih =>
    have : s.push c = s := by simp [push, enter, h]
    rw [after_cons, this, ih]

end Scan

end SelectLang
