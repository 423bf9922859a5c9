import ChatFlow.Decimal.Read
import ChatFlow.Settings.Layer

/-!
# Settings from variables

A variable whose name starts as those of this program do gives a setting.  The
rest of the name is a path, in which two underscores stand for a point.
-/

namespace ChatFlow.Settings

/-- The start of the names of variables that give settings. -/
def variableStart : String := "fluxo_"

/-- The variable that names the settings file. -/
def fileVariable : String := "FLUXO_CONFIG_PATH"

/-- Replaces each two underscores by a point, from left to right. -/
def withPoints : List Char → List Char
  | '_' :: '_' :: rest => '.' :: withPoints rest
  | c :: rest => c :: withPoints rest
  | [] => []

/-- The path that the name of a variable stands for, if it gives a setting. -/
def variablePath? (name : String) : Option String :=
  let lower := (lowerName name).toList
  let start := variableStart.toList
  if start.isPrefixOf lower then
    some (String.ofList (withPoints (lower.drop start.length)))
  else none

/-- What the text of a variable stands for. -/
def ofVariable (value : String) : Setting :=
  let lower := lowerName value
  if lower = "true" then .bool true
  else if lower = "false" then .bool false
  else
    match Text.signed? value.toList with
    | some whole => .integer whole
    | none =>
        match Decimal.read? value.toList with
        | some number => .real number
        | none => .text value

/-- The settings that variables give; of two for one path the later counts. -/
def ofVariables (environment : Entries String) : Entries Setting :=
  environment.foldl
    (fun source (name, value) =>
      match variablePath? name with
      | some path => Entries.put path (ofVariable value) source
      | none => source)
    []

end ChatFlow.Settings
