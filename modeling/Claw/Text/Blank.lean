/-!
# Blank characters and trimming

A character is *blank* when trimming removes it.  The set is that of Unicode white space together
with the four separator controls U+001C to U+001F; it leaves out the zero-width characters (U+180E,
U+200B, U+FEFF), which are ordinary content everywhere in this library.

Texts are handled as lists of characters; `trimmed` is the one function on `String`.

* `isBlank`, `trimStart`, `trimEnd`, `trim`: the class and the removal of a blank margin;
* `isGap`: the narrower class, tab and space, that separates the parts of a source line.
-/

namespace Claw.Text

/-- Whether trimming removes the character. -/
def isBlank (c : Char) : Bool :=
  let n := c.toNat
  (0x9 ≤ n && n ≤ 0xD) || (0x1C ≤ n && n ≤ 0x20) || n == 0x85 || n == 0xA0 || n == 0x1680 ||
    (0x2000 ≤ n && n ≤ 0x200A) || n == 0x2028 || n == 0x2029 || n == 0x202F || n == 0x205F ||
    n == 0x3000

/-- A tab or a space: the only blanks allowed between the parts of a directive. -/
def isGap (c : Char) : Bool :=
  c == '\t' || c == ' '

/-- The text without its leading blanks. -/
def trimStart (cs : List Char) : List Char :=
  cs.dropWhile isBlank

/-- The text without its trailing blanks. -/
def trimEnd (cs : List Char) : List Char :=
  (cs.reverse.dropWhile isBlank).reverse

/-- The text without its blank margins. -/
def trim (cs : List Char) : List Char :=
  trimEnd (trimStart cs)

/-- The string without its blank margins. -/
def trimmed (s : String) : String :=
  String.ofList (trim s.toList)

end Claw.Text
