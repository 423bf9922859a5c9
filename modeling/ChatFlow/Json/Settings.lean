import ChatFlow.Json.Decode
import ChatFlow.Json.Value
import ChatFlow.Settings.Basic

/-!
# Settings as JSON

Settings are written in four sections.  Whatever is missing when they are
read has its default.
-/

namespace ChatFlow

open Json (Value Decoder RecordField)

/-! ## Messages -/

def Messages.toJson (messages : Messages) : Value :=
  .object
    [("handoff_prompt", .text messages.handoffPrompt),
      ("capture_confirmation", .text messages.captureConfirmation),
      ("fallback", .text messages.fallback)]

structure PartialMessages where
  handoffPrompt? : Option String := none
  captureConfirmation? : Option String := none
  fallback? : Option String := none

def PartialMessages.fields : List (RecordField PartialMessages) :=
  [.orLack (.slot "handoff_prompt" handoffPrompt?
      ({ · with handoffPrompt? := some · }) Json.readText),
    .orLack (.slot "capture_confirmation" captureConfirmation?
      ({ · with captureConfirmation? := some · }) Json.readText),
    .orLack (.slot "fallback" fallback?
      ({ · with fallback? := some · }) Json.readText)]

/-- The messages, with the defaults for those that are missing. -/
def PartialMessages.complete (part : PartialMessages) : Messages :=
  let default : Messages := {}
  { handoffPrompt := part.handoffPrompt?.getD default.handoffPrompt
    captureConfirmation := part.captureConfirmation?.getD default.captureConfirmation
    fallback := part.fallback?.getD default.fallback }

def Messages.ofJson : Decoder Messages :=
  Json.readRecord PartialMessages.fields {} fun part => some part.complete

/-! ## The other sections -/

/-- Reads a section whose only field may be missing. -/
def Json.readSingle {α : Type} (name : String) (decode : Decoder α) (default : α) :
    Decoder α :=
  Json.readRecord
    [.orLack (.slot name (fun part : Option α => part) (fun _ value => some value) decode)]
    none fun part => some (part.getD default)

structure PartialDisplay where
  businessName? : Option String := none
  primaryColor? : Option String := none

def PartialDisplay.fields : List (RecordField PartialDisplay) :=
  [.orLack (.slot "business_name" businessName?
      ({ · with businessName? := some · }) Json.readText),
    .orLack (.slot "primary_color" primaryColor?
      ({ · with primaryColor? := some · }) Json.readText)]

def PartialDisplay.complete (part : PartialDisplay) : Display :=
  let default : Display := {}
  { businessName := part.businessName?.getD default.businessName
    primaryColor := part.primaryColor?.getD default.primaryColor }

def Display.toJson (display : Display) : Value :=
  .object
    [("business_name", .text display.businessName),
      ("primary_color", .text display.primaryColor)]

def Display.ofJson : Decoder Display :=
  Json.readRecord PartialDisplay.fields {} fun part => some part.complete

/-! ## Settings -/

def Settings.toJson (settings : Settings) : Value :=
  .object
    [("messages", settings.options.messages.toJson),
      ("transcript",
        .object [("visible_window", .natural settings.options.window.toNat)]),
      ("display", settings.display.toJson),
      ("logging", .object [("level", .text settings.logLevel)])]

structure PartialSettings where
  messages? : Option Messages := none
  window? : Option UInt64 := none
  display? : Option Display := none
  logLevel? : Option String := none

def PartialSettings.fields : List (RecordField PartialSettings) :=
  let default : Settings := {}
  [.orLack (.slot "messages" messages? ({ · with messages? := some · }) Messages.ofJson),
    .orLack (.slot "transcript" window? ({ · with window? := some · })
      (Json.readSingle "visible_window" Json.readUnsigned default.options.window)),
    .orLack (.slot "display" display? ({ · with display? := some · }) Display.ofJson),
    .orLack (.slot "logging" logLevel? ({ · with logLevel? := some · })
      (Json.readSingle "level" Json.readText default.logLevel))]

/-- The settings, with the defaults for those that are missing. -/
def PartialSettings.complete (part : PartialSettings) : Settings :=
  let default : Settings := {}
  { options :=
      { messages := part.messages?.getD default.options.messages
        window := part.window?.getD default.options.window }
    display := part.display?.getD default.display
    logLevel := part.logLevel?.getD default.logLevel }

def Settings.ofJson : Decoder Settings :=
  Json.readRecord PartialSettings.fields {} fun part => some part.complete

end ChatFlow
