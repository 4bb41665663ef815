import Claw.CommandLine.Run

/-!
# The executable

The one module that touches the surroundings: it looks at the paths that the command line names,
hands what it found to `Claw.CommandLine.run`, prints the two streams and ends with the status.  A
failure without output is printed as it is worded.
-/

namespace Claw

/-- Whether a code of the operating system, which may come with either sign, is the given one. -/
def isCode (expected code : UInt32) : Bool :=
  code == expected || code == 0 - expected

/-- What is found under a path of the real file system.  The codes are those of a directory in place
of a file and of a name that is too long. -/
def lookUp (path : String) : IO (Except AccessFault Entry) := do
  try
    let bytes ← IO.FS.readBinFile path
    pure (.ok (.file bytes.toList))
  catch
    | .noFileOrDirectory .. => pure (.error .missing)
    | .inappropriateType _ code _ =>
      pure (if isCode 21 code then .ok .directory else .error .notDirectory)
    | .invalidArgument _ code _ =>
      pure (.error (if isCode 36 code then .nameTooLong else .missing))
    | other => throw other

/-- What is found under each of the paths, as a file system that holds nothing else. -/
def lookUpAll (paths : List String) : IO Files := do
  let found ← paths.mapM fun path => do pure (path, ← lookUp path)
  pure { find := fun path => (found.lookup path).getD (.error .missing) }

end Claw

/-- The program. -/
def main (arguments : List String) : IO UInt32 := do
  let files ← Claw.lookUpAll (Claw.CommandLine.pathsRead arguments)
  match Claw.CommandLine.run .standard arguments files with
  | .ok output =>
    (← IO.getStdout).putStr output.standard
    (← IO.getStderr).putStr output.error
    pure (UInt32.ofNat output.status)
  | .error failure =>
    (← IO.getStderr).putStrLn failure.message
    pure 1
