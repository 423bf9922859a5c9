import ChatFlow.Settings.Dotenv
import ChatFlow.Settings.Environment
import ChatFlow.Settings.Source

/-!
# Loading settings

Settings come from a file and from variables, which are laid over the file.
What is loaded has no defect.
-/

namespace ChatFlow.Settings

/-- What settings are loaded from. -/
structure Sources where
  files : Files
  /-- The formats of settings files, in the order in which they are tried. -/
  formats : List Format
  environment : Entries String
  /-- What stands in the file of variables, if one is found. -/
  dotenv? : Option ByteArray
  /-- The path of the settings file, if it is given. -/
  path? : Option String := none
  /-- Whether variables count. -/
  usesVariables : Bool := true

/-- Why there are no settings. -/
inductive Failure
  | load (error : LoadError)
  | defect (defect : Defect)
deriving DecidableEq, Repr

/-- The file that is read if no other is named. -/
def defaultFile : String := "fluxo"

namespace Sources

/-- All variables, with those that a file defines. -/
def allVariables (sources : Sources) : Entries String :=
  if sources.usesVariables then
    match sources.dotenv? with
    | some bytes => Dotenv.addBytes bytes sources.environment
    | none => sources.environment
  else []

/-- The path of the settings file that is asked for, by itself or in a
variable. -/
def askedPath? (sources : Sources) : Option String :=
  sources.path? <|> sources.allVariables.lookup fileVariable

/-- The paths that the settings file may be found under. -/
def triedPaths (sources : Sources) : List String :=
  let path := sources.askedPath?.getD defaultFile
  path :: (extendedPaths sources.formats path).map Prod.fst

/-- The settings of the file that is asked for, which is required, or else of
the default file. -/
def fileEntries (sources : Sources) : Except LoadError (Entries Setting) :=
  match sources.askedPath? with
  | some path => readFile sources.formats sources.files path true
  | none => readFile sources.formats sources.files defaultFile false

/-- The layers of all sources. -/
def root (sources : Sources) : Except LoadError Setting :=
  sources.fileEntries.map fun entries =>
    ((Setting.table []).layer entries).layer (ofVariables sources.allVariables)

end Sources

/-- Loads settings. -/
def load (sources : Sources) : Except Failure Settings := do
  let settings ← (sources.root.bind ofSetting).mapError .load
  match settings.defect? with
  | some defect => .error (.defect defect)
  | none => .ok settings

/-- Settings that are loaded have no defect. -/
theorem defect?_of_load {sources : Sources} {settings : Settings}
    (hload : load sources = .ok settings) : settings.defect? = none := by
  unfold load at hload
  cases hread : (sources.root.bind ofSetting).mapError Failure.load with
  | error failure =>
      rw [hread] at hload
      contradiction
  | ok found =>
      rw [hread] at hload
      change (match found.defect? with
        | some defect => Except.error (Failure.defect defect)
        | none => .ok found) = .ok settings at hload
      cases hdefect : found.defect? with
      | some defect =>
          rw [hdefect] at hload
          contradiction
      | none =>
          rw [hdefect] at hload
          cases hload
          exact hdefect

end ChatFlow.Settings
