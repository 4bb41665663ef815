import Claw.Failure
import Claw.Token.Reader
import Claw.Yaml.Load

/-!
# Configurations

A configuration is a YAML mapping with up to four fields: the default stack and three switches.

* `Config`: the settings;
* `Config.ofData`: the settings that YAML data give;
* `Config.ofText`, `Config.ofFile`: the settings that a text or a file gives.

Of several faults the first is reported: an unknown field before all others, then the default stack,
then the switches in the order of `switches`.
-/

namespace Claw

open Yaml (Data Scalar Value)

/-- The settings of an assembler. -/
structure Config extends Options where
  /-- Whether reports are shown. -/
  verbose : Bool := false
  deriving DecidableEq, Repr

namespace Config

/-- The field of the default stack. -/
def stackField : String := "default_stack"

/-- The fields of the switches. -/
def switches : List String := ["emit_labels", "report_unknown_lines", "verbose"]

/-- Whether a key of a mapping is a field. -/
def isField : Scalar → Bool
  | .text name => name == stackField || switches.contains name
  | _ => false

/-- The complaint about a key that is no field. -/
def unknownField (key : Scalar) : Failure :=
  match key.shown with
  | .ok shown => .configuration (.unknownField shown)
  | .error fault => .tooManyDigits fault

/-- Refuses keys that are no fields. -/
def checkKeys (entries : List (Scalar × Value)) : Except Failure Unit :=
  match entries.find? (!isField ·.1) with
  | some (key, _) => .error (unknownField key)
  | none => .ok ()

/-! ## Fields -/

/-- The stack that a value names. -/
def stackIn? : Value → Option Stack
  | .scalar (.text text) => Stack.ofName? text
  | _ => none

/-- The truth value that a value is. -/
def switchIn? : Value → Option Bool
  | .scalar (.boolean on) => some on
  | _ => none

/-- What a field sets, by what its value is read as; it has its default where it is absent. -/
def fieldOf {σ : Type} (read : Value → Option σ) (default : σ) (fault : ConfigFault)
    (entries : List (Scalar × Value)) (name : String) : Except Failure σ :=
  match entries.lookup (.text name) with
  | none => .ok default
  | some value =>
    match read value with
    | some setting => .ok setting
    | none => .error (.configuration fault)

/-- The default stack that the entries give. -/
def stackOf (entries : List (Scalar × Value)) : Except Failure Stack :=
  fieldOf stackIn? .standard .badStack entries stackField

/-- The switch that the entries give; it is off where they give none. -/
def switchOf (entries : List (Scalar × Value)) (field : String) : Except Failure Bool :=
  fieldOf switchIn? false (.notBoolean field) entries field

/-- The settings that the entries of a mapping give. -/
def ofEntries (entries : List (Scalar × Value)) : Except Failure Config := do
  checkKeys entries
  let defaultStack ← stackOf entries
  let emitLabels ← switchOf entries "emit_labels"
  let reportUnknown ← switchOf entries "report_unknown_lines"
  let verbose ← switchOf entries "verbose"
  pure { defaultStack, emitLabels, reportUnknown, verbose }

/-! ## Two passes

The same can be had in two passes over a mapping: the first refuses values, and the second puts
settings together from values that it does not look at. -/

/-- Refuses a field that has no meaning. -/
def checkField {σ : Type} (read : Value → Option σ) (fault : ConfigFault)
    (entries : List (Scalar × Value)) (name : String) : Except Failure Unit :=
  match entries.lookup (.text name) with
  | none => .ok ()
  | some value => if (read value).isSome then .ok () else .error (.configuration fault)

/-- Refuses the first switch that is no truth value. -/
def checkSwitches (entries : List (Scalar × Value)) : List String → Except Failure Unit
  | [] => .ok ()
  | name :: rest => do
    checkField switchIn? (.notBoolean name) entries name
    checkSwitches entries rest

/-- The first pass: refuses entries that are not those of a configuration. -/
def check (entries : List (Scalar × Value)) : Except Failure Unit := do
  checkKeys entries
  checkField stackIn? .badStack entries stackField
  checkSwitches entries switches

/-- Settings put together from values that were not looked at: a stack may be missing, and a switch
may be any value. -/
structure Draft where
  defaultStack : Option Stack
  emitLabels : Value
  reportUnknown : Value
  verbose : Value
  deriving DecidableEq, Repr

/-- The value of a switch, whatever it is. -/
def draftSwitch (entries : List (Scalar × Value)) (name : String) : Value :=
  (entries.lookup (.text name)).getD (.scalar (.boolean false))

/-- The second pass: puts settings together. -/
def draft (entries : List (Scalar × Value)) : Draft where
  defaultStack := stackIn?
    ((entries.lookup (.text stackField)).getD (.scalar (.text Stack.standard.name)))
  emitLabels := draftSwitch entries "emit_labels"
  reportUnknown := draftSwitch entries "report_unknown_lines"
  verbose := draftSwitch entries "verbose"

/-- Settings as a draft, with nothing missing and nothing but truth values. -/
def toDraft (config : Config) : Draft where
  defaultStack := some config.defaultStack
  emitLabels := .scalar (.boolean config.emitLabels)
  reportUnknown := .scalar (.boolean config.reportUnknown)
  verbose := .scalar (.boolean config.verbose)

/-! ## Data and texts -/

/-- The settings that YAML data give. -/
def ofData (data : Data) : Except Failure Config :=
  if data.root = .scalar .null then .ok {}
  else
    match data.collection? data.root with
    | some (.mapping entries) => ofEntries entries
    | _ => .error (.configuration .notMapping)

/-- The failure that a text without YAML data is. -/
def ofLoadFailure : Yaml.Failure → Failure
  | .malformed => .configuration .malformed
  | .scalar fault => .scalar fault
  | .tooDeep => .tooDeep

/-- The settings that a YAML text gives, with the given room for loading it. -/
def ofText (room : Yaml.Room) (text : String) : Except Failure Config := do
  let data ← (Yaml.load room text).mapError ofLoadFailure
  ofData data

/-- The settings that the file under a path gives. -/
def ofFile (room : Yaml.Room) (files : Files) (path : String) : Except Failure Config :=
  match files.text path with
  | .ok text => ofText room text
  | .error .nullInPath => .error .nullInPath
  | .error (.access fault) => .error (.configuration (.unreadable path fault))
  | .error (.decode fault) => .error (.undecodable fault)

end Config

end Claw
