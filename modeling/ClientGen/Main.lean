import ClientGen.CommandLine.Program

namespace ClientGen

/-- Why the system could not read a file. What it tells in no other way counts as a failure of the
device. -/
def readFaultOf : IO.Error → ReadFault
  | .noFileOrDirectory _ _ _ => .missing
  | .inappropriateType _ code _ => if code == 21 then .isDirectory else .notDirectory
  | .invalidArgument _ 36 _ => .nameTooLong
  | .permissionDenied _ _ _ => ⟨13, "Permission denied"⟩
  | _ => ⟨5, "Input/output error"⟩

def readFile (path : DescriptorPath) : BaseIO (Except ReadFault (List UInt8)) := do
  match ← (IO.FS.readBinFile path.toString).toBaseIO with
  | .ok bytes => return .ok bytes.toList
  | .error e => return .error (readFaultOf e)

/-- What the arguments ask for, with no library for YAML at hand. A breakdown is told like an
error. -/
def outcomeOf (args : List String) : BaseIO CommandLine.Outcome := do
  match CommandLine.parse args with
  | .ok o =>
    match CommandLine.execute none o (← readFile o.path) with
    | .ok outcome => return outcome
    | .error b => return { status := 1, err := CommandLine.errorLine b.message }
  | .error e => return e.outcome

end ClientGen

def main (args : List String) : IO UInt32 := do
  let outcome ← ClientGen.outcomeOf args
  (← IO.getStdout).putStr outcome.out
  (← IO.getStderr).putStr outcome.err
  return outcome.status.toUInt32
