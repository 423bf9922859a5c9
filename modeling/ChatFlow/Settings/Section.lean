import ChatFlow.Settings.Basic
import ChatFlow.Settings.Layer

/-!
# Sections of settings

A section is a table of its fields, or an array that gives them in order.
Fields that are missing have their defaults, and what is no field is ignored.
-/

namespace ChatFlow

namespace Settings

/-- Why settings cannot be loaded. -/
inductive LoadError
  /-- A file that is asked for cannot be read. -/
  | unavailable
  /-- The file holds no settings. -/
  | malformed
  /-- A field cannot take its value. -/
  | mistyped
  /-- What stands in place of a section has no fields. -/
  | unsectioned
deriving DecidableEq, Repr

/-- The values of a section. -/
inductive Section
  | named (entries : Entries Setting)
  | ordered (items : List Setting)

namespace Section

/-- The section that a setting gives; a missing one has no fields. -/
def ofSetting : Option Setting → Except LoadError Section
  | none => .ok (.named [])
  | some (.table entries) => .ok (.named entries)
  | some (.array items) => .ok (.ordered items)
  | some _ => .error .unsectioned

/-- The value of the field with a name and a place. -/
def get? (name : String) (place : Nat) : Section → Option Setting
  | .named entries => entries.lookup name
  | .ordered items => items[place]?

/-- Reads a field. -/
def field {α : Type} (take? : Setting → Option α) (name : String) (place : Nat)
    (default : α) (values : Section) : Except LoadError α :=
  match values.get? name place with
  | none => .ok default
  | some value => (take? value).elim (.error .mistyped) .ok

end Section

def readMessages (values : Section) : Except LoadError Messages := do
  let default : Messages := {}
  let handoffPrompt ← values.field Setting.text? "handoff_prompt" 0 default.handoffPrompt
  let captureConfirmation ←
    values.field Setting.text? "capture_confirmation" 1 default.captureConfirmation
  let fallback ← values.field Setting.text? "fallback" 2 default.fallback
  return { handoffPrompt, captureConfirmation, fallback }

def readWindow (values : Section) : Except LoadError UInt64 :=
  values.field Setting.unsigned? "visible_window" 0 defaultWindow

def readDisplay (values : Section) : Except LoadError Display := do
  let default : Display := {}
  let businessName ← values.field Setting.text? "business_name" 0 default.businessName
  let primaryColor ← values.field Setting.text? "primary_color" 1 default.primaryColor
  return { businessName, primaryColor }

def readLogLevel (values : Section) : Except LoadError String :=
  let default : Settings := {}
  values.field Setting.text? "level" 0 default.logLevel

/-- Reads settings from their sections. -/
def ofSetting (root : Setting) : Except LoadError Settings := do
  let named (name : String) := Section.ofSetting (root.entries.lookup name)
  let messages ← readMessages (← named "messages")
  let window ← readWindow (← named "transcript")
  let display ← readDisplay (← named "display")
  let logLevel ← readLogLevel (← named "logging")
  return { options := { messages, window }, display, logLevel }

end Settings

end ChatFlow
