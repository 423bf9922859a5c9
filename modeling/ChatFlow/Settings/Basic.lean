import ChatFlow.Session.Options

/-!
# Settings

Settings are the options of a session, what is shown around the conversation,
and how much is logged.  A usable window holds a turn, and a usable
confirmation says the name it confirms.
-/

namespace ChatFlow

/-- What is shown around a conversation. -/
structure Display where
  businessName : String := "Fluxo"
  primaryColor : String := "#25d366"
deriving DecidableEq, Repr

structure Settings where
  options : Options := {}
  display : Display := {}
  logLevel : String := "info"
deriving DecidableEq, Repr

namespace Settings

/-- What makes settings unusable. -/
inductive Defect
  | emptyWindow
  | nameless
deriving DecidableEq, Repr

def Defect.message : Defect → String
  | .emptyWindow => "invalid configuration: transcript.visible_window must be greater than 0"
  | .nameless =>
      "invalid configuration: messages.capture_confirmation must contain {name}"

/-- The first defect, if there is any. -/
def defect? (settings : Settings) : Option Defect :=
  if settings.options.window = 0 then some .emptyWindow
  else if Text.hasPlaceholder settings.options.messages.captureConfirmation.toList then
    none
  else some .nameless

theorem defect?_eq_none_iff {settings : Settings} :
    settings.defect? = none ↔
      settings.options.window ≠ 0 ∧
        Text.hasPlaceholder settings.options.messages.captureConfirmation.toList = true := by
  unfold defect?
  split
  next hempty => simp [hempty]
  next hopen =>
    split
    next hmark => simp [hopen, hmark]
    next hplain => simp [hplain]

end Settings

end ChatFlow
