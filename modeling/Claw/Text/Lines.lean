/-!
# Pieces, lines and line breaks

Within the library a line break is a single line feed.

* `pieces`: a text cut at every occurrence of a character, at least one piece;
* `lines` and `unlines`: a text as the list of its lines, and back;
* `unifyBreaks`: reads a carriage return, with or without a line feed after it, as one line break.
  Files are read this way; text handed over directly is not.
-/

namespace Claw.Text

/-- The pieces of a text between the occurrences of a separator. -/
def pieces (separator : Char) : List Char → List (List Char)
  | [] => [[]]
  | c :: cs =>
    if c = separator then [] :: pieces separator cs
    else (pieces separator cs).modifyHead (c :: ·)

/-- The lines of a text; a final line break opens one more, empty, line. -/
def lines (cs : List Char) : List (List Char) :=
  pieces '\n' cs

/-- The text with the given lines, a line break between each two. -/
def unlines : List (List Char) → List Char
  | [] => []
  | [line] => line
  | line :: rest => line ++ '\n' :: unlines rest

/-- The strings joined by line breaks. -/
def joinLines (rows : List String) : String :=
  "\n".intercalate rows

/-- Reads every carriage return, together with a line feed right after it, as one line break. -/
def unifyBreaks : List Char → List Char
  | [] => []
  | '\r' :: '\n' :: cs => '\n' :: unifyBreaks cs
  | '\r' :: cs => '\n' :: unifyBreaks cs
  | c :: cs => c :: unifyBreaks cs

end Claw.Text
