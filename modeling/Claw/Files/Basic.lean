import Claw.Text.Lines
import Claw.Text.Quoted
import Claw.Text.Utf8

/-!
# Files

What this library needs to know of a file system: what is found under a path.

* `Entry`: a file with its bytes, or a directory;
* `AccessFault`: why nothing can be read under a path;
* `Files`: a file system, as the answer for every path;
* `Files.text`: the text of a file, which is strict UTF-8 with any kind of line break.
-/

namespace Claw

/-- What is found under a path. -/
inductive Entry
  | file (bytes : List UInt8)
  | directory
  deriving DecidableEq, Repr

/-- Why nothing can be read under a path. -/
inductive AccessFault
  /-- There is nothing. -/
  | missing
  /-- The path leads through a file. -/
  | notDirectory
  /-- There is a directory. -/
  | isDirectory
  /-- The path, or a name in it, is longer than any that is looked up. -/
  | nameTooLong
  deriving DecidableEq, Repr

/-- The wording of a fault at a path. -/
def AccessFault.message (path : String) : AccessFault → String
  | .missing => "[Errno 2] No such file or directory: " ++ Text.quoted path
  | .notDirectory => "[Errno 20] Not a directory: " ++ Text.quoted path
  | .isDirectory => "[Errno 21] Is a directory: " ++ Text.quoted path
  | .nameTooLong => "[Errno 36] File name too long: " ++ Text.quoted path

/-- A file system. -/
structure Files where
  find : String → Except AccessFault Entry

/-- Why no text can be read under a path. -/
inductive ReadFault
  /-- The path holds a null character, so that no file can be asked for. -/
  | nullInPath
  | access (fault : AccessFault)
  | decode (fault : Text.DecodeFault)
  deriving DecidableEq, Repr

namespace Files

/-- Whether a path holds a null character. -/
def hasNull (path : String) : Bool :=
  path.toList.contains '\x00'

/-- Whether anything is found under a path, unless it is too long to be looked up. -/
def exists? (files : Files) (path : String) : Except AccessFault Bool :=
  if hasNull path then .ok false
  else
    match files.find path with
    | .ok _ => .ok true
    | .error .nameTooLong => .error .nameTooLong
    | .error _ => .ok false

/-- The bytes of the file under a path. -/
def bytes (files : Files) (path : String) : Except AccessFault (List UInt8) :=
  match files.find path with
  | .ok (.file bytes) => .ok bytes
  | .ok .directory => .error .isDirectory
  | .error fault => .error fault

/-- The text of the file under a path. -/
def text (files : Files) (path : String) : Except ReadFault String :=
  if hasNull path then .error .nullInPath
  else
    match files.bytes path with
    | .error fault => .error (.access fault)
    | .ok bytes =>
      match Text.decodeUtf8 bytes with
      | .error fault => .error (.decode fault)
      | .ok cs => .ok (String.ofList (Text.unifyBreaks cs))

end Files

end Claw
