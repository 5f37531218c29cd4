import SelectLang.CommandLine.Run

/-!
# Reports on arguments

The outer layer of the command line: it makes options of the arguments of a run, or
refuses them. There is at most one query, the name of a file, and two switches.
Letters of switches may be bundled behind one hyphen; a file name may follow
`-f` directly, behind `=`, or as the next argument. Behind `--` every argument
is a query. A hyphen alone is a query as well.
-/
namespace SelectLang.CommandLine

inductive UsageFault
  | unknownOption (arg : String)
  | repeatedOption (name : String)
  | missingValue
  | unexpectedValue (name : String)
  | secondQuery (arg : String)
  | queryWithFile
  deriving DecidableEq

/-- Why no run is made of the arguments: they ask for help, or they are wrong. -/
inductive Refusal
  | help
  | fault (fault : UsageFault)
  deriving DecidableEq

def UsageFault.message : UsageFault → String
  | .unknownOption arg => "unknown option in " ++ arg
  | .repeatedOption name => "--" ++ name ++ " is given more than once"
  | .missingValue => "--file needs a name"
  | .unexpectedValue name => "--" ++ name ++ " takes no value"
  | .secondQuery arg => "there is a query before " ++ arg
  | .queryWithFile => "a query and --file exclude each other"

namespace Options

inductive Named
  | file
  | tokens
  | verbose
  | help
  deriving DecidableEq

def Named.ofLetter? : Char → Option Named
  | 'f' => some .file
  | 't' => some .tokens
  | 'v' => some .verbose
  | 'h' => some .help
  | _ => none

def Named.ofName? : String → Option Named
  | "file" => some .file
  | "tokens" => some .tokens
  | "verbose" => some .verbose
  | "help" => some .help
  | _ => none

/-- How the next argument is taken. -/
inductive Expecting
  | anything
  /-- As the name of the file. -/
  | fileName
  /-- As a query, whatever it looks like. -/
  | operand
  deriving DecidableEq

structure Progress where
  found : Options
  expecting : Expecting
  deriving DecidableEq

namespace Progress

def initial : Progress := ⟨⟨none, none, false, false⟩, .anything⟩

def addQuery (p : Progress) (arg : String) : Except Refusal Progress :=
  match p.found.query with
  | some _ => .error (.fault (.secondQuery arg))
  | none => .ok { p with found := { p.found with query := some arg } }

/-- Takes a file name; an empty one counts as missing. -/
def addFile (p : Progress) (name : String) : Except Refusal Progress :=
  match p.found.file with
  | some _ => .error (.fault (.repeatedOption "file"))
  | none =>
    if name = "" then .error (.fault .missingValue)
    else .ok ⟨{ p.found with file := some name }, .anything⟩

/-- Takes an option that stands without a value. -/
def addNamed (p : Progress) : Named → Except Refusal Progress
  | .file => .ok { p with expecting := .fileName }
  | .tokens =>
    if p.found.tokens then .error (.fault (.repeatedOption "tokens"))
    else .ok { p with found := { p.found with tokens := true } }
  | .verbose =>
    if p.found.verbose then .error (.fault (.repeatedOption "verbose"))
    else .ok { p with found := { p.found with verbose := true } }
  | .help => .error .help

/-- Takes the letters behind one hyphen. What follows the letter of the file is
its name. -/
def addLetters (p : Progress) (arg : String) : List Char → Except Refusal Progress
  | [] => .ok p
  | c :: rest =>
    match Named.ofLetter? c with
    | none => .error (.fault (.unknownOption arg))
    | some .file =>
      match rest with
      | [] => p.addNamed .file
      | '=' :: name => p.addFile (String.ofList name)
      | name => p.addFile (String.ofList name)
    | some named =>
      match p.addNamed named with
      | .ok q => q.addLetters arg rest
      | .error refusal => .error refusal

/-- Takes what stands behind two hyphens: a long name, with `=` and a value or
without. -/
def addLong (p : Progress) (arg : String) (body : List Char) : Except Refusal Progress :=
  let name := String.ofList (body.takeWhile (· ≠ '='))
  match Named.ofName? name, body.dropWhile (· ≠ '=') with
  | none, _ => .error (.fault (.unknownOption arg))
  | some named, [] => p.addNamed named
  | some .file, _ :: value => p.addFile (String.ofList value)
  | some _, _ :: _ => .error (.fault (.unexpectedValue name))

def add (p : Progress) (arg : String) : Except Refusal Progress :=
  match p.expecting, arg.toList with
  | .operand, _ => p.addQuery arg
  | .fileName, '-' :: _ :: _ => .error (.fault .missingValue)
  | .fileName, _ => p.addFile arg
  | .anything, ['-', '-'] => .ok { p with expecting := .operand }
  | .anything, '-' :: '-' :: body => p.addLong arg body
  | .anything, '-' :: c :: letters => p.addLetters arg (c :: letters)
  | .anything, _ => p.addQuery arg

def finish (p : Progress) : Except Refusal Options :=
  if p.expecting = .fileName then .error (.fault .missingValue)
  else if p.found.query.isSome && p.found.file.isSome then .error (.fault .queryWithFile)
  else .ok p.found

def addAll (p : Progress) : List String → Except Refusal Options
  | [] => p.finish
  | arg :: rest =>
    match p.add arg with
    | .ok q => q.addAll rest
    | .error refusal => .error refusal

end Progress

def ofArgs (args : List String) : Except Refusal Options := Progress.initial.addAll args

end Options

namespace Report

def usage : String :=
  "Usage: [OPTIONS] [QUERY]\n\n" ++
  "Reads SELECT statements from QUERY, or from standard input if it is - or missing.\n\n" ++
  "  -f, --file FILE   read the statements from a file\n" ++
  "  -t, --tokens      write the tokens first\n" ++
  "  -v, --verbose     write the outline of each statement\n" ++
  "  -h, --help        write this\n"

def ofRefusal : Refusal → Report
  | .help => ⟨0, usage, ""⟩
  | .fault fault => ⟨2, "", "error: " ++ fault.message ++ "\n\n" ++ usage⟩

def ofArgs {m : Type → Type} [Monad m] (outside : Outside m) (args : List String) : m Report :=
  match Options.ofArgs args with
  | .error refusal => pure (ofRefusal refusal)
  | .ok o => ofOptions outside o

end Report

end SelectLang.CommandLine
