import SelectLang.Query.Reading

/-!
# Traces

A trace is the account of one run over a text. The scanner notes each token, an
error with its place before it, and at the end the counts of tokens and bytes;
the reader notes each statement and at the end an error.
-/
namespace SelectLang

inductive Trace.Level
  | trace
  | debug
  deriving DecidableEq

/-- The part of the program that a record comes from. -/
inductive Trace.Origin
  | scanner
  | reader
  deriving DecidableEq

structure Trace.Record where
  level : Trace.Level
  origin : Trace.Origin
  text : String
  deriving DecidableEq

namespace Trace

def Level.name : Level → String
  | .trace => "TRACE"
  | .debug => "DEBUG"

def Origin.name : Origin → String
  | .scanner => "scanner"
  | .reader => "parser"

/-- The record of an error, when the lexeme is one. -/
def ofFault (fault : Option LexicalFault) (lexeme : Lexeme) : List Record :=
  match fault with
  | some fault =>
    if lexeme.token.kind = .error then
      [⟨.debug, .scanner,
        "lexical error at byte " ++ toString lexeme.start ++ ": " ++ fault.reason⟩]
    else []
  | none => []

def ofToken (t : Token) : Record := ⟨.trace, .scanner, "emit " ++ t.text⟩

/-- The record of the counts at the end of a scan. -/
def ofCounts (tokens bytes : Nat) : Record :=
  ⟨.debug, .scanner,
    "scanned " ++ toString tokens ++ " tokens from " ++ toString bytes ++ " bytes"⟩

def ofLexing (l : Lexing) (bytes : Nat) : List Record :=
  l.lexemes.flatMap (fun lexeme => ofFault l.fault lexeme ++ [ofToken lexeme.token]) ++
    [ofCounts l.lexemes.length bytes]

def ofStatement (statement : Statement) (index : Nat) : Record :=
  ⟨.debug, .reader, "parsed statement " ++ toString index ++ ": " ++ statement.text⟩

def ofError (e : ReadError) : Record := ⟨.debug, .reader, "parse failed: " ++ e.message⟩

def ofReading (r : Reading) : List Record :=
  r.statements.reverse.mapIdx (fun index statement => ofStatement statement index) ++
    match r.result with
    | .error e => [ofError e]
    | .ok _ => []

def ofSource (source : String) : List Record :=
  let lexing := Lexing.ofText source
  ofLexing lexing source.utf8ByteSize ++ ofReading (Reading.ofTokens 0 lexing.tokens)

end Trace

end SelectLang
