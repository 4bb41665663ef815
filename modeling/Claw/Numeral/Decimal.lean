/-!
# Decimal text of integers

`integerText` writes an integer in decimal, however long it is.

A *literal* is more restricted: it is read from decimal text, and written back in a message, only
up to `digitLimit` digits.  Other bases have no limit, so a literal can be read that no message can
show; `boundedText` then fails with `TooManyDigits`.

`paddedDigits` gives digits with leading zeros, in any base; `flushRight` and `flushLeft` set a text
in a column.
-/

namespace Claw.Numeral

/-- The decimal digits of a natural number. -/
def naturalText (n : Nat) : String :=
  String.ofList (Nat.toDigits 10 n)

/-- The decimal digits of an integer, behind a minus sign if it is negative. -/
def integerText (n : Int) : String :=
  if n < 0 then "-" ++ naturalText n.natAbs else naturalText n.natAbs

/-- The digits of a natural number, with leading zeros up to the given width. -/
def paddedDigits (base width n : Nat) : List Char :=
  let digits := Nat.toDigits base n
  List.replicate (width - digits.length) '0' ++ digits

/-- The greatest number of decimal digits of a literal. -/
def digitLimit : Nat := 4300

/-- The failure to write an integer of more than `digitLimit` decimal digits. -/
inductive TooManyDigits
  | mk
  deriving DecidableEq, Repr

/-- What is said of an integer with too many digits. -/
def TooManyDigits.message (_ : TooManyDigits) : String :=
  "Exceeds the limit (4300 digits) for integer string conversion; " ++
    "use sys.set_int_max_str_digits() to increase the limit"

/-- The decimal text of an integer of at most `digitLimit` digits. -/
def boundedText (n : Int) : Except TooManyDigits String :=
  if n.natAbs < Nat.pow 10 digitLimit then .ok (integerText n) else .error .mk

/-- The text set flush right in a column of the given width, or as it is if it is wider. -/
def flushRight (width : Nat) (s : String) : String :=
  String.ofList (List.replicate (width - s.length) ' ') ++ s

/-- The text set flush left in a column of the given width, or as it is if it is wider. -/
def flushLeft (width : Nat) (s : String) : String :=
  s ++ String.ofList (List.replicate (width - s.length) ' ')

end Claw.Numeral
