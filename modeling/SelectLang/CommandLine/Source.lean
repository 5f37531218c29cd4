/-!
# Sources

What a run is asked to do, and where its text comes from: a named file, the query,
or standard input, which a hyphen for a query asks for too. Bytes that are not
UTF-8 are no text.

The bytes of files and of standard input are asked for in whatever monad the run
is made in.

Results:
* `decode_toUTF8`: the bytes of a text are read as that text.
-/
namespace SelectLang.CommandLine

structure Options where
  query : Option String
  file : Option String
  tokens : Bool
  verbose : Bool
  deriving DecidableEq

inductive Source
  | file (path : String)
  | argument (text : String)
  | standardInput
  deriving DecidableEq

inductive SourceFault
  | notFound
  | notDirectory
  | isDirectory
  | nameTooLong
  | notPermitted
  | notText
  /-- Any other refusal of the system, with its own words and number. -/
  | system (text : String) (code : Nat)
  deriving DecidableEq

namespace SourceFault

/-- A refusal of the system, with its number. -/
def numbered (text : String) (code : Nat) : String := text ++ " (os error " ++ toString code ++ ")"

def message : SourceFault → String
  | notFound => numbered "No such file or directory" 2
  | notPermitted => numbered "Permission denied" 13
  | notDirectory => numbered "Not a directory" 20
  | isDirectory => numbered "Is a directory" 21
  | nameTooLong => numbered "File name too long" 36
  | notText => "stream did not contain valid UTF-8"
  | system text code => numbered text code

end SourceFault

/-- What there is outside of a run: the bytes of the files and of standard input, or
why there are none. -/
structure Outside (m : Type → Type) where
  file : String → m (Except SourceFault ByteArray)
  standardInput : m (Except SourceFault ByteArray)

namespace Source

def ofOptions (o : Options) : Source :=
  match o.file, o.query with
  | some path, _ => file path
  | none, some text => if text = "-" then standardInput else argument text
  | none, none => standardInput

/-- What could not be done, when there is no text. -/
def failure : Source → String
  | file path => "Failed to read " ++ path
  | argument _ => "Failed to read the query"
  | standardInput => "Failed to read from stdin"

def decode (bytes : ByteArray) : Except SourceFault String :=
  match String.fromUTF8? bytes with
  | some text => .ok text
  | none => .error .notText

def fetch {m : Type → Type} [Monad m] (outside : Outside m) :
    Source → m (Except SourceFault String)
  | argument text => pure (.ok text)
  | file path => do pure ((← outside.file path).bind decode)
  | standardInput => do pure ((← outside.standardInput).bind decode)

theorem decode_toUTF8 (text : String) : decode text.toUTF8 = .ok text := by
  have valid : text.toUTF8.IsValidUTF8 := text.isValidUTF8
  simp only [decode, String.fromUTF8?, valid, dite_true]
  rfl

end Source

end SelectLang.CommandLine
