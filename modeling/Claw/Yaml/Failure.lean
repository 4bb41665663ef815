import Claw.Numeral.Decimal
import Claw.Text.Quoted

/-!
# Why a YAML text cannot be loaded

Three causes are told apart.  A text may not be a well-formed document at all: its characters, its
layout, its structure or its use of anchors and tags are at fault, or a key has no fixed identity.
Or a scalar may be of a type without denoting a value of it, such as a date in a thirteenth month;
each of these faults has a wording of its own.  Or what the text says may be nested deeper than it
can be followed.

How deep that is depends on how many calls are open already, and on how many more may be.  It is no
property of the text, and whoever has a text loaded says so by a `Room`.  `Within` is a step that
has so much of it, and `deeper` is where some is taken up.
-/

namespace Claw.Yaml

/-- How a scalar falls short of its type. -/
inductive ScalarFault
  /-- There is no such calendar year. -/
  | year (number : Nat)
  /-- There is no such month. -/
  | month
  /-- The month has no such day. -/
  | day
  /-- There is no such hour. -/
  | hour
  /-- There is no such minute. -/
  | minute
  /-- There is no such second. -/
  | second
  /-- An offset of so many days and seconds is a day long or longer. -/
  | offset (days : Int) (seconds : Nat)
  /-- There are no digits of the base, or other characters. -/
  | notInteger (base : Nat) (text : String)
  /-- A decimal integer has so many digits that it is not read. -/
  | tooLong (digits : Nat)
  /-- The text is no number. -/
  | notNumber (text : String)
  /-- There is no number at all, or nothing behind its sign. -/
  | noNumber
  /-- A place of a number of base sixty counts more than any number. -/
  | tooGreat
  /-- The word is none for a truth value. -/
  | notBoolean (word : String)
  /-- The text has not the shape of a timestamp. -/
  | notTimestamp
  /-- A timestamp is written as a mapping with a value in it. -/
  | nestedTimestamp
  /-- An escape denotes a code point above the greatest one. -/
  | codePoint
  deriving DecidableEq, Repr

/-- A length of time in days and seconds, as it is shown. -/
def durationText (days : Int) (seconds : Nat) : String :=
  "datetime.timedelta(days=" ++ Numeral.integerText days ++
    (if seconds = 0 then "" else ", seconds=" ++ Numeral.naturalText seconds) ++ ")"

/-- The greatest length of a quoted text in the wording of `ScalarFault.notInteger`. -/
def quotedLimit : Nat := 200

/-- The wording of a fault. -/
def ScalarFault.message : ScalarFault → String
  | .year number => "year " ++ Numeral.naturalText number ++ " is out of range"
  | .month => "month must be in 1..12"
  | .day => "day is out of range for month"
  | .hour => "hour must be in 0..23"
  | .minute => "minute must be in 0..59"
  | .second => "second must be in 0..59"
  | .offset days seconds =>
    "offset must be a timedelta strictly between -timedelta(hours=24) and timedelta(hours=24), " ++
      "not " ++ durationText days seconds ++ "."
  | .notInteger base text =>
    "invalid literal for int() with base " ++ Numeral.naturalText base ++ ": " ++
      String.ofList ((Text.quoted text).toList.take quotedLimit)
  | .tooLong digits =>
    "Exceeds the limit (4300 digits) for integer string conversion: value has " ++
      Numeral.naturalText digits ++
      " digits; use sys.set_int_max_str_digits() to increase the limit"
  | .notNumber text => "could not convert string to float: " ++ Text.quoted text
  | .noNumber => "string index out of range"
  | .tooGreat => "int too large to convert to float"
  | .notBoolean word => Text.quoted word
  | .notTimestamp => "'NoneType' object has no attribute 'groupdict'"
  | .nestedTimestamp => "expected string or bytes-like object, got 'list'"
  | .codePoint => "chr() arg not in range(0x110000)"

/-- Why a text cannot be loaded. -/
inductive Failure
  /-- The text is not a well-formed document. -/
  | malformed
  /-- A scalar has no value. -/
  | scalar (fault : ScalarFault)
  /-- There is no room left to go deeper. -/
  | tooDeep
  deriving DecidableEq, Repr

/-! ## Going deeper -/

/-- How deep the loading of a text may go. -/
structure Room where
  /-- How many nodes may be read within each other. -/
  nodes : Nat
  /-- How many mappings may be completed within each other. -/
  merges : Nat
  /-- How many nodes may be looked through for a text. -/
  texts : Nat

/-- The room of a program that has just been started: it may have a thousand calls open, two of
which go into a node that holds others. -/
def Room.standard : Room := ⟨480, 970, 970⟩

/-- A step in the given state, with the given room for going deeper. -/
abbrev Within (ρ σ : Type) := ReaderT ρ (StateT σ (Except Failure))

/-- A step that is taken one level deeper, if there is room for it. -/
def deeper {σ α : Type} (step : Within Nat σ α) : Within Nat σ α := fun room =>
  match room with
  | 0 => throw .tooDeep
  | room + 1 => step room

end Claw.Yaml
