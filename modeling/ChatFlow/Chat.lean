import ChatFlow.Files
import ChatFlow.Preview
import ChatFlow.Settings.Basic
import ChatFlow.Text.Digits
import ChatFlow.Text.Lines

/-!
# Chats in a terminal

A chat reads lines and writes lines.  Before each line is acted on, the flow
file is read again; if it changed, the new program is put in place, and if it
cannot be read the chat goes on with the program it has.

A number presses the button shown with that number, `/restart` starts over,
`/quit` ends the chat and anything else is said as text.
-/

namespace ChatFlow

/-! ## What a line means -/

namespace Session

/-- The buttons shown last, also if there were none to show. -/
def shownButtons? (session : Session) : Option (List Button) :=
  session.turns.reverse.findSome? (·.buttons?)

/-- The button that a line chooses by its number, counted from one. -/
def choice? (session : Session) (line : String) : Option Button := do
  let buttons ← session.shownButtons?
  let number ← Text.unsigned? line.toList
  if number = 0 then none else buttons[number.toNat - 1]?

/-- What a line means, once the white space around it is gone. -/
def intent (session : Session) (line : String) : Intent :=
  if line = "/restart" then .restart
  else if session.phase.isAwaiting then .text line
  else
    match session.choice? line with
    | some button => .press button.target
    | none => .text line

end Session

/-! ## What is shown -/

/-- The lines that show a turn; those of the user are on screen already. -/
def Turn.shown (turn : Turn) : List String :=
  if turn.isBot then
    (Text.lines turn.text.toList).map (fun line => "bot: " ++ String.ofList line) ++
      (turn.offered.zipIdx 1).map fun (button, number) =>
        "  [" ++ toString number ++ "] " ++ button.label
  else []

/-- Why a chat ended before its input did. -/
inductive ChatFailure
  /-- There was no flow file to start with. -/
  | unreadableFile (reason : FileError)
  /-- A line of the input is no text. -/
  | unreadableInput
deriving DecidableEq, Repr

/-- What a chat wrote, line by line, and why it failed, if it did. -/
structure ChatResult where
  output : List String
  failure? : Option ChatFailure := none
deriving DecidableEq, Repr

/-- Everything that was written. -/
def ChatResult.text (result : ChatResult) : String :=
  String.join (result.output.map (· ++ "\n"))

/-! ## Running a chat -/

/-- Something that arrives at a chat: a line of text with the outcome of
reading the flow file again, or a line that is no text. -/
inductive ChatEvent
  | line (text : String) (file : Except FileError String)
  | garbled

namespace Chat

/-- What is shown before the first line. -/
def opening (settings : Settings) (preview : Preview) : List String :=
  ["== " ++ settings.display.businessName ++ " =="] ++
    (if preview.session.hasEntry then []
      else ["(no '" ++ entryName ++ "' flow found, nothing to show)"]) ++
    preview.session.turns.flatMap Turn.shown

/-- Takes in the flow file as it is now; what is shown tells of a change. -/
def refresh (preview : Preview) (file : Except FileError String) :
    Preview × List String :=
  match file with
  | .error _ => (preview, [])
  | .ok source =>
      match preview.edit? source with
      | none => (preview, [])
      | some edited =>
          (edited,
            ["(program reloaded, " ++ toString edited.findings.length ++ " problem(s))"])

/-- Acts on a line without white space around it. -/
def hear (preview : Preview) (line : String) (file : Except FileError String) :
    Preview × List String :=
  let (fresh, told) := refresh preview file
  let (session, answer) := fresh.session.act (fresh.session.intent line)
  match answer with
  | .ok turns => ({ fresh with session }, told ++ turns.flatMap Turn.shown)
  | .error _ => ({ fresh with session }, told)

/-- Whether a line ends the chat. -/
def quits (line : String) : Bool :=
  line = "/quit"

/-- Goes on with a chat until it ends. -/
def continueWith (preview : Preview) : List ChatEvent → ChatResult
  | [] => { output := [] }
  | .garbled :: _ => { output := [], failure? := some .unreadableInput }
  | .line text file :: rest =>
      let line := Text.trimmed text
      if quits line then { output := [] }
      else
        let (next, told) := hear preview line file
        let result := continueWith next rest
        { result with output := told ++ result.output }

/-- A whole chat. -/
def run (settings : Settings) (file : Except FileError String)
    (events : List ChatEvent) : ChatResult :=
  match file with
  | .error reason => { output := [], failure? := some (.unreadableFile reason) }
  | .ok source =>
      let preview := Preview.start source settings.options
      let result := continueWith preview events
      { result with output := opening settings preview ++ result.output }

end Chat

end ChatFlow
