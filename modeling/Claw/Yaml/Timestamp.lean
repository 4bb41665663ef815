import Claw.Numeral.Decimal
import Claw.Numeral.Digits
import Claw.Yaml.Failure

/-!
# Timestamps

A date, or a date with a time of day and possibly an offset from universal time.

* `Timestamp.Fields` and `fields?`: the parts of a text that has the shape of a timestamp;
* `Timestamp.ofFields`: the timestamp, or the first part that is out of range;
* `Timestamp.text`: a timestamp as it is shown.
-/

namespace Claw.Yaml

/-- A point in time, or a day. -/
structure Timestamp where
  year : Nat
  month : Nat
  day : Nat
  /-- Hour, minute, second, microsecond and offset in minutes. -/
  time : Option (Nat × Nat × Nat × Nat × Option Int)
  deriving DecidableEq, Repr

namespace Timestamp

/-- The time of day in the text of a timestamp. -/
structure TimeFields where
  hour : Nat
  minute : Nat
  second : Nat
  microsecond : Nat
  offset : Option Int
  deriving DecidableEq, Repr

/-- The numbers in the text of a timestamp, and whether month and day both have two digits. -/
structure Fields where
  year : Nat
  month : Nat
  day : Nat
  full : Bool
  time : Option TimeFields
  deriving DecidableEq, Repr

/-! ## Reading -/

/-- A number of at least `least` and at most `most` digits at the head of the text. -/
def takeNumber? (least most : Nat) (cs : List Char) : Option (Nat × Nat × List Char) :=
  let digits := (cs.take most).takeWhile Char.isDigit
  if digits.length < least then none
  else
    some (Numeral.positional 10 (digits.filterMap (Numeral.digit? 10)), digits.length,
      cs.drop digits.length)

/-- The text behind a character. -/
def behind? (expected : Char) : List Char → Option (List Char)
  | c :: cs => if c = expected then some cs else none
  | [] => none

/-- The microseconds that the digits of a fraction denote; only the first six count. -/
def microseconds (digits : List Char) : Nat :=
  let kept := digits.take 6
  Numeral.positional 10 (kept.filterMap (Numeral.digit? 10)) *
    Nat.pow 10 (6 - kept.length)

/-- The fraction of a second at the head of the text. -/
def takeFraction : List Char → Nat × List Char
  | '.' :: cs => (microseconds (cs.takeWhile Char.isDigit), cs.dropWhile Char.isDigit)
  | cs => (0, cs)

/-- The offset that a text denotes, in minutes, or that it denotes none. -/
def offset? (cs : List Char) : Option (Option Int) :=
  if cs.isEmpty then some none
  else
    match cs.dropWhile fun c => c == ' ' || c == '\t' with
    | ['Z'] => some (some 0)
    | sign :: rest => do
      let negative ← if sign = '-' then some true else if sign = '+' then some false else none
      let (hours, _, rest) ← takeNumber? 1 2 rest
      let minutes ← match rest with
        | [] => some 0
        | ':' :: rest => do
          let (minutes, _, rest) ← takeNumber? 2 2 rest
          if rest.isEmpty then some minutes else none
        | _ => none
      let size : Int := hours * 60 + minutes
      some (some (if negative then -size else size))
    | [] => none

/-- The time of day in the text behind a date. -/
def timeFields? (cs : List Char) : Option TimeFields := do
  let body ← match cs with
    | 'T' :: rest | 't' :: rest => some rest
    | c :: rest =>
      if c = ' ' ∨ c = '\t' then some (rest.dropWhile fun c => c == ' ' || c == '\t') else none
    | [] => none
  let (hour, _, rest) ← takeNumber? 1 2 body
  let (minute, _, rest) ← takeNumber? 2 2 (← behind? ':' rest)
  let (second, _, rest) ← takeNumber? 2 2 (← behind? ':' rest)
  let (microsecond, rest) := takeFraction rest
  let offset ← offset? rest
  pure ⟨hour, minute, second, microsecond, offset⟩

/-- The parts of a text that has the shape of a timestamp. -/
def fields? (cs : List Char) : Option Fields := do
  let (year, _, rest) ← takeNumber? 4 4 cs
  let (month, monthLength, rest) ← takeNumber? 1 2 (← behind? '-' rest)
  let (day, dayLength, rest) ← takeNumber? 1 2 (← behind? '-' rest)
  let full := monthLength == 2 && dayLength == 2
  if rest.isEmpty then pure ⟨year, month, day, full, none⟩
  else
    let time ← timeFields? rest
    pure ⟨year, month, day, full, some time⟩

/-- Whether a text has the shape of a timestamp that needs no tag: a full date, or a date and a
time. -/
def isShape (cs : List Char) : Bool :=
  (fields? cs).any fun fields => fields.full || fields.time.isSome

/-! ## Checking -/

/-- Whether a year has a leap day. -/
def isLeap (year : Nat) : Bool :=
  year % 4 == 0 && (year % 100 != 0 || year % 400 == 0)

/-- The number of days of a month. -/
def daysIn (year month : Nat) : Nat :=
  if month = 2 then (if isLeap year then 29 else 28)
  else if [4, 6, 9, 11].contains month then 30
  else 31

/-- The fault of an offset in minutes, if it is a day or longer. -/
def checkOffset (offset : Int) : Except ScalarFault Unit :=
  if offset.natAbs < 24 * 60 then .ok ()
  else .error (.offset (offset.fdiv (24 * 60)) ((offset.fmod (24 * 60)).toNat * 60))

/-- The timestamp with the given parts, or the first part that is out of range. -/
def ofFields (fields : Fields) : Except ScalarFault Timestamp := do
  match fields.time.bind (·.offset) with
  | some offset => checkOffset offset
  | none => pure ()
  if fields.year = 0 then .error (.year fields.year)
  else if fields.month = 0 ∨ 12 < fields.month then .error .month
  else if fields.day = 0 ∨ daysIn fields.year fields.month < fields.day then .error .day
  else
    match fields.time with
    | none => pure ⟨fields.year, fields.month, fields.day, none⟩
    | some time =>
      if 23 < time.hour then .error .hour
      else if 59 < time.minute then .error .minute
      else if 59 < time.second then .error .second
      else
        pure ⟨fields.year, fields.month, fields.day,
          some (time.hour, time.minute, time.second, time.microsecond, time.offset)⟩

/-! ## Showing -/

/-- A number with leading zeros up to the given width. -/
def padded (width n : Nat) : String :=
  String.ofList (Numeral.paddedDigits 10 width n)

/-- An offset as it is shown. -/
def offsetText (offset : Int) : String :=
  (if offset < 0 then "-" else "+") ++ padded 2 (offset.natAbs / 60) ++ ":" ++
    padded 2 (offset.natAbs % 60)

/-- A timestamp as it is shown. -/
def text (timestamp : Timestamp) : String :=
  padded 4 timestamp.year ++ "-" ++ padded 2 timestamp.month ++ "-" ++ padded 2 timestamp.day ++
    match timestamp.time with
    | none => ""
    | some (hour, minute, second, microsecond, offset) =>
      " " ++ padded 2 hour ++ ":" ++ padded 2 minute ++ ":" ++ padded 2 second ++
        (if microsecond = 0 then "" else "." ++ padded 6 microsecond) ++
        (match offset with
          | none => ""
          | some offset => offsetText offset)

end Timestamp

end Claw.Yaml
