/-!
# YAML tokens

The pieces into which a YAML text falls.  Indentation is turned into tokens as well: the start of a
block collection and its end have tokens of their own, although no character stands for them.
-/

namespace Claw.Yaml

/-- What a directive line declares. -/
inductive Declaration
  /-- The major version of the language. -/
  | version (major : Nat)
  /-- What a tag handle stands for. -/
  | handle (name expansion : String)
  | other
  deriving DecidableEq, Repr

/-- A piece of a YAML text. -/
inductive Token
  | declaration (content : Declaration)
  | documentStart
  | documentEnd
  | blockSequenceStart
  | blockMappingStart
  | blockEnd
  | flowSequenceStart
  | flowSequenceEnd
  | flowMappingStart
  | flowMappingEnd
  | blockEntry
  | flowEntry
  | key
  | value
  | alias (name : String)
  | anchor (name : String)
  /-- A tag, with the handle that its suffix is relative to, if there is one. -/
  | tag (handle : Option String) (suffix : String)
  | scalar (plain : Bool) (text : String)
  deriving DecidableEq, Repr

end Claw.Yaml
