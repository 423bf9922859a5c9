/-!
# Files

A path leads to a file or a directory, or is no use for a reason.  Files are
read as text, which is UTF-8.
-/

namespace ChatFlow

/-- The components of a path. -/
def pathComponents (path : String) : List String :=
  (path.toList.splitOn '/').map String.ofList

/-- What stands under a path. -/
inductive File
  | contents (bytes : ByteArray)
  | directory

/-- Why a file cannot be read as text. -/
inductive FileError
  | missing
  | isDirectory
  /-- A part of the path before its end is no directory. -/
  | notDirectory
  | notText
deriving DecidableEq, Repr

def FileError.message : FileError → String
  | .missing => "No such file or directory (os error 2)"
  | .isDirectory => "Is a directory (os error 21)"
  | .notDirectory => "Not a directory (os error 20)"
  | .notText => "stream did not contain valid UTF-8"

/-- The text of what stands under a path, if anything does. -/
def File.text : Option File → Except FileError String
  | none => .error .missing
  | some .directory => .error .isDirectory
  | some (.contents bytes) => (String.fromUTF8? bytes).elim (.error .notText) .ok

/-- The files that a run can see. -/
structure Files where
  /-- What a path leads to. -/
  find : String → Except FileError File

namespace Files

/-- Whether a path leads to a file that is no directory. -/
def isFile (files : Files) (path : String) : Bool :=
  match files.find path with
  | .ok (.contents _) => true
  | _ => false

/-- Reads a file as text. -/
def read (files : Files) (path : String) : Except FileError String :=
  (files.find path).bind fun file => File.text (some file)

end Files

end ChatFlow
