import SelectLang.CommandLine.Report

/-!
# The program

Reads the arguments and the source, writes the report, and exits with its code.
-/
namespace SelectLang.Main

open SelectLang.CommandLine

/-- The number of a refusal of the system, which some calls give with a minus
sign. -/
def numberOf (code : UInt32) : Nat := min code.toNat (-code).toNat

def faultOf : IO.Error → SourceFault
  | .noFileOrDirectory _ _ _ => .notFound
  | .permissionDenied _ _ _ => .notPermitted
  | .inappropriateType _ code _ => if numberOf code = 20 then .notDirectory else .isDirectory
  | .invalidArgument _ code text =>
    if numberOf code = 36 then .nameTooLong else .system text (numberOf code)
  | .otherError code text => .system text (numberOf code)
  | e => .system (toString e) 0

def outside : Outside IO where
  file path := do
    try pure (.ok (← IO.FS.readBinFile path))
    catch e => pure (.error (faultOf e))
  standardInput := do
    try pure (.ok (← (← IO.getStdin).readBinToEnd))
    catch e => pure (.error (faultOf e))

def write (r : Report) : IO UInt32 := do
  IO.print r.out
  IO.eprint r.err
  pure r.exitCode.toUInt32

end SelectLang.Main

open SelectLang SelectLang.CommandLine

def main (args : List String) : IO UInt32 := do
  Main.write (← Report.ofArgs Main.outside args)
