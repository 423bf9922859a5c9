import ChatFlow.Files
import ChatFlow.Json.Source
import ChatFlow.Settings.Section
import ChatFlow.Toml.Read

/-!
# Settings files

The extension of a settings file tells its format.  A path that leads to no
file is tried with the extensions put after it.  Which formats there are, and
in which order they are tried, is up to the caller: two are defined here, and
others can be given by their extensions and a reader.
-/

namespace ChatFlow.Settings

/-- A format of settings files. -/
structure Format where
  extensions : List String
  /-- Reads a text as the entries of its table, unless it is malformed. -/
  read? : String → Option (Entries Setting)

namespace Format

def toml : Format where
  extensions := ["toml"]
  read? := Toml.read

def json : Format where
  extensions := ["json"]
  read? := Json.readSource

end Format

/-- The components of a path up to its name: the empty ones at the end and
those that stay in place lead nowhere else. -/
def namedComponents (path : String) : List String :=
  ((pathComponents path).reverse.dropWhile fun component =>
    component = "" || component = ".").reverse

/-- The extension of a name, after its last point; a point in front starts no
extension. -/
def extension? (name : String) : Option String :=
  match (name.toList.splitOn '.').reverse with
  | last :: before :: rest =>
      if before.isEmpty && rest.isEmpty then none else some (String.ofList last)
  | _ => none

/-- A path with an extension after its name. -/
def withExtension? (path extension : String) : Option String :=
  let components := namedComponents path
  match components.getLast? with
  | none | some ".." => none
  | some _ => some (String.intercalate "/" components ++ "." ++ extension)

section

variable (formats : List Format)

/-- The format of the file with this path, by its extension. -/
def formatOf? (path : String) : Option Format := do
  let name ← (namedComponents path).getLast?
  let extension ← extension? name
  formats.find? (extension ∈ ·.extensions)

/-- The paths that are tried if a path leads to no file. -/
def extendedPaths (path : String) : List (String × Format) :=
  formats.flatMap fun format =>
    format.extensions.filterMap fun extension =>
      (withExtension? path extension).map (·, format)

/-- Finds the settings file for a path. -/
def locate? (files : Files) (path : String) : Option (String × Format) :=
  if files.isFile path then (formatOf? formats path).map (path, ·)
  else (extendedPaths formats path).find? fun extended => files.isFile extended.1

/-- Reads the settings file for a path.  If it is not required, one that
cannot be read gives no settings. -/
def readFile (files : Files) (path : String) (required : Bool) :
    Except LoadError (Entries Setting) :=
  let missing := if required then .error .unavailable else .ok []
  match locate? formats files path with
  | none => missing
  | some (found, format) =>
      match files.read found with
      | .error _ => missing
      | .ok text => (format.read? text).elim (.error .malformed) .ok

end

end ChatFlow.Settings
