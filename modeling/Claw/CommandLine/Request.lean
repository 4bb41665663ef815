import Claw.CommandLine.Option
import Claw.Text.Quoted

/-!
# Command lines

A command line is read into a `Request`: a run with its settings, a request for help or for the
version, or a complaint.

* `Settings` and `Request`: what a command line asks for;
* `Complaint`: what can be wrong with a command line;
* `Reading`: what was read so far;
* `optionsOf`: the options that one argument consists of;
* `request`: what a command line asks for.

Options and words may be mixed.  The first word is the input, and words behind it are too many.
Behind a double dash everything is a word.  Help and version are granted as soon as they are met; an
argument that does not decide between options is refused before anything else is looked at.

Parsers of command lines have changed over time in what they make of text attached to short options.
The reading here is the earlier one.  In an argument of several short options the text begins right
behind the last of them, even with an equals sign: `-vc=x` names the configuration `=x`, though
`-c=x` names `x`.  A value that is a double dash counts as none, also where it is attached, as in
`-c=--`.  Text that does not go on with another option is refused together with the option in front
of it, so that `-hx` is a complaint.  Later parsers find the values `x` and `--` and a request for
help in these.
-/

namespace Claw.CommandLine

/-- What a run is asked to do. -/
structure Settings where
  input : String
  /-- The path of the configuration, empty if there is none. -/
  config : String := ""
  verbose : Bool := false
  listing : Bool := false
  strict : Bool := false
  emitLabels : Bool := false
  deriving DecidableEq, Repr

/-- What is wrong with a command line. -/
inductive Complaint
  | ambiguous (text : String) (spellings : List String)
  | missingValue (option : Switch)
  | unwantedValue (option : Switch) (value : String)
  | missingInput
  | unrecognized (texts : List String)
  deriving DecidableEq, Repr

/-- The wording of a complaint. -/
def Complaint.message : Complaint → String
  | .ambiguous text spellings =>
    "ambiguous option: " ++ text ++ " could match " ++ ", ".intercalate spellings
  | .missingValue option => "argument " ++ option.title ++ ": expected one argument"
  | .unwantedValue option value =>
    "argument " ++ option.title ++ ": ignored explicit argument " ++ Text.quoted value
  | .missingInput => "the following arguments are required: input"
  | .unrecognized texts => "unrecognized arguments: " ++ " ".intercalate texts

/-- What a command line asks for. -/
inductive Request
  | run (settings : Settings)
  | help
  | version
  | refused (complaint : Complaint)
  deriving DecidableEq, Repr

/-! ## Reading arguments -/

/-- What was read of a command line. -/
structure Reading where
  input : Option String := none
  /-- The settings apart from the input. -/
  settings : Settings := { input := "" }
  /-- Arguments that nothing can be done with. -/
  extras : List String := []
  /-- Whether the argument just read is the input, so that a double dash goes with it. -/
  endsInInput : Bool := false

namespace Reading

/-- Takes an option into account; its value is empty where it takes none.  A value that is a double
dash counts as none. -/
def apply (reading : Reading) (option : Switch) (value : String) : Except Request Reading :=
  let settings := reading.settings
  match option with
  | .help => .error .help
  | .version => .error .version
  | .config =>
    let config := if value = "--" then "" else value
    .ok { reading with settings := { settings with config } }
  | .verbose => .ok { reading with settings := { settings with verbose := true } }
  | .listing => .ok { reading with settings := { settings with listing := true } }
  | .strict => .ok { reading with settings := { settings with strict := true } }
  | .emitLabels => .ok { reading with settings := { settings with emitLabels := true } }

/-- Takes options into account one after another. -/
def applyAll (reading : Reading) (options : List (Switch × String)) : Except Request Reading :=
  options.foldlM (fun reading (option, value) => reading.apply option value) reading

/-- Takes an argument into account with which nothing can be done. -/
def extra (reading : Reading) (text : String) : Reading :=
  { reading with extras := reading.extras ++ [text], endsInInput := false }

/-- Takes a word into account: as the input, or as one too many. -/
def word (reading : Reading) (text : String) : Reading :=
  match reading.input with
  | none => { reading with input := some text, endsInInput := true }
  | some _ => reading.extra text

/-- Takes a double dash and the words behind it into account.  The double dash goes with the input,
if that is the first of the words or stands right before it, and is one word too many otherwise. -/
def words (reading : Reading) (texts : List String) : Reading :=
  match reading.input, texts with
  | none, first :: rest => rest.foldl Reading.extra (reading.word first)
  | _, texts =>
    texts.foldl Reading.extra (if reading.endsInInput then reading else reading.extra "--")

end Reading

/-- The options that an argument consists of, of which the first has the given attached text, and
whether the last of them still needs a value.  A short option without a value is followed by
another one in its attached text. -/
def bundle : Switch → Bool → List Char → Except Complaint (List (Switch × String) × Bool)
  | option, short, attached =>
    if option.takesValue then .ok ([(option, String.ofList attached)], false)
    else
      match attached, short with
      | c :: rest, true =>
        match spellings.lookup (String.ofList ['-', c]) with
        | none => .error (.unwantedValue option (String.ofList attached))
        | some next =>
          if rest.isEmpty then .ok ([(option, ""), (next, "")], next.takesValue)
          else (bundle next true rest).map fun (options, needs) => ((option, "") :: options, needs)
      | _, _ => .error (.unwantedValue option (String.ofList attached))
termination_by _ _ attached => attached.length

/-- Whether a spelling is that of a short option. -/
def isShort (spelling : String) : Bool :=
  (spelling.toList[1]?).any (· != '-')

/-- The options of an occurrence, and whether the last of them still needs a value. -/
def optionsOf (occurrence : Occurrence) : Except Complaint (List (Switch × String) × Bool) :=
  match occurrence.attached with
  | none => .ok ([(occurrence.option, "")], occurrence.option.takesValue)
  | some attached => bundle occurrence.option (isShort occurrence.spelling) attached.toList

/-- Reads the arguments before a double dash. -/
def readArguments (reading : Reading) : List Argument → Except Request Reading
  | [] => .ok reading
  | .word text :: rest => readArguments (reading.word text) rest
  | .unknown text :: rest => readArguments (reading.extra text) rest
  | .option occurrence :: rest =>
    match optionsOf occurrence, rest with
    | .error complaint, _ => .error (.refused complaint)
    | .ok (options, false), rest => do
      let reading ← reading.applyAll options
      readArguments { reading with endsInInput := false } rest
    | .ok (options, true), .word value :: rest => do
      let reading ← reading.applyAll (options.dropLast ++ [(.config, value)])
      readArguments { reading with endsInInput := false } rest
    | .ok (_, true), _ => .error (.refused (.missingValue .config))

/-- What a command line asks for when all of it was read. -/
def Reading.request (reading : Reading) : Request :=
  match reading.input, reading.extras with
  | none, _ => .refused .missingInput
  | some input, [] => .run { reading.settings with input }
  | some _, extras => .refused (.unrecognized extras)

/-- What an argument is, or the refusal of one that does not decide between options. -/
def decideArgument (text : String) : Except Request Argument :=
  (classify text).mapError fun several =>
    .refused (.ambiguous text (several.map Occurrence.spelling))

/-- What a command line asks for, or why it ends early. -/
def read (arguments : List String) : Except Request Reading := do
  let before ← (arguments.takeWhile (· != "--")).mapM decideArgument
  let reading ← readArguments {} before
  match arguments.dropWhile (· != "--") with
  | [] => pure reading
  | _ :: behind => pure (reading.words behind)

/-- What a command line asks for. -/
def request (arguments : List String) : Request :=
  match read arguments with
  | .ok reading => reading.request
  | .error request => request

end Claw.CommandLine
