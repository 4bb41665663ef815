import Claw.Text.Word

/-!
# Command-line options

The options of the program, their spellings, and how one argument is understood.

* `Switch`: the options; `spellings` lists the ways to write them, in the order in which they are
  offered when an argument is ambiguous;
* `Argument`: what an argument is: a plain word, an option with or without attached text, or
  something that looks like an option and is none;
* `classify`: what an argument is by its own text.

An argument is an option if it starts with a dash.  A long option may be cut short as long as only
one option begins that way, and text can be attached behind an equals sign.  To a short option text
is attached directly.  A single dash, a negative number and an unknown option with a space in it are
plain words.
-/

namespace Claw.CommandLine

/-- The options of the program. -/
inductive Switch
  | help
  | config
  | verbose
  | listing
  | strict
  | emitLabels
  | version
  deriving DecidableEq, Repr

/-- Whether an option takes a value. -/
def Switch.takesValue : Switch → Bool
  | .config => true
  | _ => false

/-- The ways to write the options. -/
def spellings : List (String × Switch) :=
  [("-h", .help), ("--help", .help), ("-c", .config), ("--config", .config),
   ("-v", .verbose), ("--verbose", .verbose), ("-l", .listing), ("--listing", .listing),
   ("--strict", .strict), ("--emit-labels", .emitLabels), ("--version", .version)]

/-- An option with all its spellings, as messages show it. -/
def Switch.title (option : Switch) : String :=
  "/".intercalate ((spellings.filter (·.2 = option)).map Prod.fst)

/-- An option as it was found in an argument: how it was spelled, and the text attached to it. -/
structure Occurrence where
  option : Switch
  spelling : String
  attached : Option String
  deriving DecidableEq, Repr

/-- What an argument is. -/
inductive Argument
  | word (text : String)
  | option (occurrence : Occurrence)
  /-- It looks like an option and is none. -/
  | unknown (text : String)
  deriving DecidableEq, Repr

/-- The text up to the first equals sign, and the text behind it. -/
def splitEquals (cs : List Char) : List Char × Option (List Char) :=
  match cs.dropWhile (· != '=') with
  | [] => (cs, none)
  | _ :: behind => (cs.takeWhile (· != '='), some behind)

/-- Whether the text is a negative number: a minus sign, digits and at most one point, with a digit
behind it. -/
def isNegativeNumber : List Char → Bool
  | '-' :: cs =>
    -- a line break at the end does no harm
    let body := if cs.getLast? = some '\n' then cs.dropLast else cs
    let behind := body.dropWhile Text.isDecimalDigit
    match behind with
    | [] => !body.isEmpty
    | '.' :: fraction => !fraction.isEmpty && fraction.all Text.isDecimalDigit
    | _ => false
  | _ => false

/-- The options that an argument may mean when it is no full spelling. -/
def candidates (text : String) : List Occurrence :=
  let cs := text.toList
  let (stem, attached) := splitEquals cs
  if cs.take 2 = ['-', '-'] then
    (spellings.filter fun (spelling, _) => stem.isPrefixOf spelling.toList).map
      fun (spelling, option) => ⟨option, spelling, attached.map String.ofList⟩
  else
    spellings.filterMap fun (spelling, option) =>
      if spelling.toList = cs.take 2 then
        some ⟨option, spelling, some (String.ofList (cs.drop 2))⟩
      else if cs.isPrefixOf spelling.toList then some ⟨option, spelling, none⟩
      else none

/-- What is left if an argument means no option. -/
def unmatched (text : String) : Argument :=
  if isNegativeNumber text.toList || text.toList.contains ' ' then .word text else .unknown text

/-- What an argument is by its own text, or the options between which it does not decide. -/
def classify (text : String) : Except (List Occurrence) Argument :=
  let cs := text.toList
  let (stem, attached) := splitEquals cs
  if cs.head? != some '-' || cs = ['-'] then .ok (.word text)
  else
    match spellings.lookup text, attached, spellings.lookup (String.ofList stem) with
    | some option, _, _ => .ok (.option ⟨option, text, none⟩)
    | none, some attached, some option =>
      .ok (.option ⟨option, String.ofList stem, some (String.ofList attached)⟩)
    | _, _, _ =>
      match candidates text with
      | [] => .ok (unmatched text)
      | [occurrence] => .ok (.option occurrence)
      | several => .error several

end Claw.CommandLine
