/-!
# Source layout

Before source text is cut into lines its layout is settled, in three passes over the whole text:

1. `unifyPairs`: a carriage return before a line feed is dropped;
2. `joinContinued`: a backslash before a line break takes the line break with it, so that the next
   line continues the current one;
3. `breakEscapes`: a backslash before the letter `n` becomes, with it, a line break.

The order matters: a line break that the third pass makes is never joined by the second, and a lone
carriage return stays an ordinary (blank) character.  `layout` is the three passes together, and
`layoutText` the same on `String`.
-/

namespace Claw.Source

/-- Drops the carriage return of every pair with a line feed. -/
def unifyPairs : List Char → List Char
  | [] => []
  | '\r' :: '\n' :: cs => '\n' :: unifyPairs cs
  | c :: cs => c :: unifyPairs cs

/-- Drops every backslash before a line break together with the line break. -/
def joinContinued : List Char → List Char
  | [] => []
  | '\\' :: '\n' :: cs => joinContinued cs
  | c :: cs => c :: joinContinued cs

/-- Turns every backslash before the letter `n`, together with it, into a line break. -/
def breakEscapes : List Char → List Char
  | [] => []
  | '\\' :: 'n' :: cs => '\n' :: breakEscapes cs
  | c :: cs => c :: breakEscapes cs

/-- Source text with its layout settled. -/
def layout (cs : List Char) : List Char :=
  breakEscapes (joinContinued (unifyPairs cs))

/-- Source text with its layout settled. -/
def layoutText (text : String) : String :=
  String.ofList (layout text.toList)

end Claw.Source
