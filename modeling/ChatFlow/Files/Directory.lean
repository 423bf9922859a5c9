import ChatFlow.Files

/-!
# Directories

A directory holds files, each under the components of its path.  A directory
inside it exists if something stands below it.  A path is followed component
by component; of what stands outside nothing is known but directories without
names.
-/

namespace ChatFlow

/-- A directory by the files in it. -/
structure Directory where
  entries : List (List String × File)

namespace Directory

/-- The files listed under their paths. -/
def ofList (entries : List (String × File)) : Directory where
  entries := entries.map fun (path, file) => (pathComponents path, file)

/-- What stands at a place; the place of no components is the directory
itself, and so is every place that something stands below. -/
def at? (directory : Directory) (place : List String) : Option File :=
  match directory.entries.find? (·.1 = place) with
  | some (_, file) => some file
  | none =>
      if place.isEmpty || directory.entries.any fun entry => place.isPrefixOf entry.1 then
        some .directory
      else none

/-- Follows the components of a path outside the directory, where no name
leads anywhere. -/
def followOutside (components : List String) : Except FileError File :=
  if components.all fun component => component ∈ ["", ".", ".."] then .ok .directory
  else .error .missing

/-- Follows the components of a path from a place that exists. -/
def follow (directory : Directory) (place : List String) (file : File) :
    List String → Except FileError File
  | [] => .ok file
  | component :: rest =>
      match file with
      | .contents _ => .error .notDirectory
      | .directory =>
          if component = "" || component = "." then directory.follow place file rest
          else if component = ".." then
            if place.isEmpty then followOutside rest
            else directory.follow place.dropLast file rest
          else
            match directory.at? (place ++ [component]) with
            | some next => directory.follow (place ++ [component]) next rest
            | none => .error .missing

/-- What a path leads to.  One that starts with a slash leads outside. -/
def find (directory : Directory) (path : String) : Except FileError File :=
  if path = "" then .error .missing
  else if path.startsWith "/" then followOutside (pathComponents path)
  else directory.follow [] .directory (pathComponents path)

end Directory

/-- The files that relative paths lead to from a directory. -/
def Files.ofDirectory (directory : Directory) : Files where
  find := directory.find

end ChatFlow
