import SelectLang.CommandLine.Source
import SelectLang.Query.Reading

/-!
# Runs

What a run writes and how it exits. The tokens come first if they are asked for.
Then either every statement follows, or nothing more is written and the failure
goes to the error output: an error of the scan before any other, and otherwise
the first error of reading with what is behind it.
-/
namespace SelectLang.CommandLine

/-- The exit code and the texts written to both outputs. -/
structure Report where
  exitCode : Nat
  out : String
  err : String
  deriving DecidableEq

namespace Report

/-- A number in decimal digits, with blanks before it up to a width of four. -/
def aligned (n : Nat) : String :=
  let digits := Nat.toDigits 10 n
  String.ofList (List.replicate (4 - digits.length) ' ' ++ digits)

def dumpLine (index : Nat) (t : Token) : String := aligned index ++ ": " ++ t.text ++ "\n"

def dump (tokens : List Token) : String := String.join (tokens.mapIdx dumpLine)

/-- The lines of the causes of a failure. One cause stands alone; more are
numbered. -/
def causeLines : List String → String
  | [] => ""
  | [cause] => "\n\nCaused by:\n    " ++ cause
  | causes =>
    "\n\nCaused by:" ++
      String.join (causes.mapIdx fun index cause => "\n " ++ aligned index ++ ": " ++ cause)

def failureText (context : String) (causes : List String) : String :=
  "Error: " ++ context ++ causeLines causes ++ "\n"

def statementText (verbose : Bool) (statement : Statement) : String :=
  statement.text ++ ";\n" ++ if verbose then statement.outline.indented 0 ++ "\n" else ""

def firstError? (tokens : List Token) : Option Token :=
  tokens.find? fun t => t.kind == .error

def ofText (o : Options) (source : String) : Report :=
  let tokens := lex source
  let dumped := if o.tokens then dump tokens else ""
  match firstError? tokens with
  | some t => ⟨1, dumped, failureText ("Lexical error near " ++ Escaped.escape t.literal) []⟩
  | none =>
    match readTokens tokens with
    | .error e => ⟨1, dumped, failureText "Failed to parse input" (e.message :: e.source?.toList)⟩
    | .ok statements =>
      ⟨0, dumped ++ String.join (statements.map (statementText o.verbose)), ""⟩

/-- The report of a run whose source gave a text or did not. -/
def ofSource (o : Options) : Except SourceFault String → Report
  | .ok source => ofText o source
  | .error fault => ⟨1, "", failureText (Source.ofOptions o).failure [fault.message]⟩

def ofOptions {m : Type → Type} [Monad m] (outside : Outside m) (o : Options) : m Report := do
  pure (ofSource o (← (Source.ofOptions o).fetch outside))

end Report

end SelectLang.CommandLine
