import Claw.Assembler
import Claw.CommandLine.Request
import Claw.Files.Path

/-!
# Running the program

`run` is the whole program: from the arguments and the file system to what it prints and the status
with which it ends.  How deep a configuration may be nested is up to the room that it is given.

* `Output`: the exit status and the two streams;
* `usageText`, `helpText`, `versionText`: what the program says about itself;
* `assemble`: a run with given settings;
* `pathsRead`: where a command line has the program look;
* `run`: the program.

The exit status is 0 for a source without diagnostics, 1 for a source that has some or cannot be
assembled, and 2 for a command line that cannot be understood.  A failure that is no fault leaves no
output at all.
-/

namespace Claw.CommandLine

/-- What the program prints and the status with which it ends. -/
structure Output where
  status : Nat
  standard : String := ""
  error : String := ""
  deriving DecidableEq, Repr

/-- Rows as they are printed, each with a line break behind it. -/
def printed (rows : List String) : String :=
  String.join (rows.map (· ++ "\n"))

/-! ## What the program says about itself -/

/-- The name of the program. -/
def programName : String := "claw-asm"

/-- The version of the program. -/
def version : String := "1.0.0"

/-- How the program is called. -/
def usageText : String :=
  "usage: claw-asm [-h] [-c CONFIG] [-v] [-l] [--strict] [--emit-labels]\n" ++
  "                [--version]\n" ++
  "                input\n"

/-- The help. -/
def helpText : String :=
  usageText ++
  "\n" ++
  "Claw Assembler front-end\n" ++
  "\n" ++
  "positional arguments:\n" ++
  "  input                 Input assembly file\n" ++
  "\n" ++
  "options:\n" ++
  "  -h, --help            show this help message and exit\n" ++
  "  -c CONFIG, --config CONFIG\n" ++
  "                        YAML configuration file\n" ++
  "  -v, --verbose         Enable verbose output\n" ++
  "  -l, --listing         Print token listing\n" ++
  "  --strict              Report lines that match no known syntax\n" ++
  "  --emit-labels         Emit label tokens\n" ++
  "  --version             show program's version number and exit\n" ++
  "\n" ++
  "Examples:\n" ++
  "  claw-asm programs/fib.claw --listing\n" ++
  "  claw-asm programs/fib.claw -c claw.yaml -v\n" ++
  "        \n"

/-- The line with the version. -/
def versionText : String :=
  programName ++ " " ++ version ++ "\n"

/-! ## A run -/

/-- The settings of the assembler: those of the configuration, if there is one, with the switches of
the command line turned on. -/
def configOf (room : Yaml.Room) (settings : Settings) (files : Files) : Except Failure Config := do
  let config ← if settings.config = "" then pure {} else Config.ofFile room files settings.config
  pure { config with
    reportUnknown := config.reportUnknown || settings.strict
    emitLabels := config.emitLabels || settings.emitLabels }

/-- What is printed for a failure: its wording if it is a fault. -/
def failed (shown : List String) (failure : Failure) : Except Failure Output :=
  match failure.fault? with
  | some fault => .ok ⟨1, printed shown, printed ["Error: " ++ fault.text]⟩
  | none => .error failure

/-- The rows about diagnostics, which end in their number. -/
def errorRows (input : String) (diagnostics : List Diagnostic) : List String :=
  diagnostics.map (fun diagnostic => "Error: " ++ diagnostic.text) ++
    if diagnostics.isEmpty then []
    else ["", Numeral.naturalText diagnostics.length ++ " error(s) in " ++ input]

/-- The closing rows of a run without diagnostics. -/
def closingRows (settings : Settings) (result : Tokenization) : List String :=
  if settings.verbose && !result.hasDiagnostics then
    ["", "Tokenized " ++ Numeral.naturalText result.tokens.length ++ " tokens"]
  else []

/-- What is printed for a result. -/
def finished (settings : Settings) (shown : List String) (assembler : Assembler)
    (result : Tokenization) : Output where
  status := if result.hasDiagnostics then 1 else 0
  standard := printed (shown ++ (if settings.listing then [assembler.listing] else []) ++
    closingRows settings result)
  error := printed (errorRows settings.input result.diagnostics)

/-- A run with the given settings, of which the input is found under the given path. -/
def assembleInput (room : Yaml.Room) (settings : Settings) (files : Files) (path : String) :
    Except Failure Output :=
  match configOf room settings files with
  | .error failure => failed [] failure
  | .ok config =>
    let assembler := Assembler.new config settings.verbose
    let (after, trace) := assembler.assembleFrom files path
    let shown := assembler.shown trace
    match trace.outcome with
    | .error failure => failed shown failure
    | .ok result => .ok (finished settings shown after result)

/-- A run with the given settings. -/
def assemble (room : Yaml.Room) (settings : Settings) (files : Files) : Except Failure Output :=
  let path := tidyPath settings.input
  match files.exists? path with
  | .error fault => .error (.notLookedUp path fault)
  | .ok false => .ok ⟨1, "", printed ["Error: Input file not found: " ++ settings.input]⟩
  | .ok true => assembleInput room settings files path

/-- The paths under which the program looks for a given command line. -/
def pathsRead (arguments : List String) : List String :=
  match request arguments with
  | .run settings =>
    tidyPath settings.input :: (if settings.config = "" then [] else [settings.config])
  | _ => []

/-- The program. -/
def run (room : Yaml.Room) (arguments : List String) (files : Files) : Except Failure Output :=
  match request arguments with
  | .help => .ok ⟨0, helpText, ""⟩
  | .version => .ok ⟨0, versionText, ""⟩
  | .refused complaint =>
    .ok ⟨2, "", usageText ++ programName ++ ": error: " ++ complaint.message ++ "\n"⟩
  | .run settings => assemble room settings files

end Claw.CommandLine
