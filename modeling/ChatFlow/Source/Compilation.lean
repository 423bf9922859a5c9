import ChatFlow.Program
import ChatFlow.Source.Line
import ChatFlow.Source.Note

/-!
# Compilations

Compiling walks the lines of a source and collects, flow by flow, a draft
that the next header, the terminator or the end of the source files in the
program.  A draft without a message is dropped.  Every skipped construct
leaves a note, and notes are listed by line.
-/

namespace ChatFlow.Source

/-- The kind of block that the lines of a draft stand in. -/
inductive Block
  /-- Nothing was opened since the header. -/
  | none
  | message
  | buttons
deriving DecidableEq, Repr

/-- The flow that is being collected. -/
structure Draft where
  name : String
  /-- The line of its header. -/
  line : Nat
  block : Block := .none
  message : String := ""
  buttons : List Button := []
deriving DecidableEq, Repr

namespace Draft

/-- Adds a line of text to the message, below what is there. -/
def addText (draft : Draft) (text : String) : Draft :=
  { draft with
    message := if draft.message.isEmpty then text else draft.message ++ "\n" ++ text }

def addButton (draft : Draft) (button : Button) : Draft :=
  { draft with buttons := draft.buttons ++ [button] }

def node (draft : Draft) : Node :=
  ⟨draft.name, draft.message, draft.buttons⟩

end Draft

/-- A program with what was skipped on the way to it. -/
structure Compilation where
  program : Program
  notes : List Note
  /-- The header line of the definition in the program, for each flow. -/
  headerLines : NameMap Nat
deriving DecidableEq, Repr

/-- How far compiling has come; the notes are in the order they were made. -/
structure Progress where
  program : Program := .empty
  notes : List Note := []
  headerLines : NameMap Nat := .empty
  draft? : Option Draft := none

namespace Progress

def note (progress : Progress) (line : Nat) (cause : Cause) : Progress :=
  { progress with notes := progress.notes ++ [⟨line, cause⟩] }

/-- Files the open draft in the program, or drops it if it has no message. -/
def commit (progress : Progress) : Progress :=
  match progress.draft? with
  | none => progress
  | some draft =>
      let closed := { progress with draft? := none }
      if draft.message.isEmpty then closed.note draft.line (.emptyFlow draft.name)
      else
        let filed := { closed with
          program := closed.program.insert draft.node
          headerLines := closed.headerLines.insert draft.name draft.line }
        if closed.program.contains draft.name then
          filed.note draft.line (.redefinition draft.name)
        else filed

/-- Commits the open draft and opens another one. -/
def openFlow (progress : Progress) (name : String) (line : Nat) : Progress :=
  { progress.commit with draft? := some { name, line } }

/-- Changes the block that the lines of the open draft stand in. -/
def openBlock (progress : Progress) (block : Block) : Progress :=
  { progress with draft? := progress.draft?.map ({ · with block }) }

/-- Changes the open draft if its lines stand in the given block, and leaves
a note otherwise. -/
def within (progress : Progress) (block : Block) (change : Draft → Draft)
    (line : Nat) (otherwise : Cause) : Progress :=
  match progress.draft? with
  | some draft =>
      if draft.block = block then { progress with draft? := some (change draft) }
      else progress.note line otherwise
  | none => progress.note line otherwise

/-- What one line does; a terminator does nothing here, since no line after
the first one is read. -/
def step (progress : Progress) (line : Line) : Progress :=
  match line.construct with
  | .entryHeader => progress.openFlow entryName line.number
  | .flowHeader name => progress.openFlow name line.number
  | .messageOpener => progress.openBlock .message
  | .buttonOpener _ => progress.openBlock .buttons
  | .quoted text => progress.within .message (·.addText text) line.number .looseText
  | .arrow label target =>
      progress.within .buttons (·.addButton ⟨label, target⟩) line.number .looseButton
  | .terminator => progress
  | .unrecognized text => progress.note line.number (.unrecognized text)

/-- The result of all lines: the open draft is committed and the notes are
listed by line, those of one line in the order they were made. -/
def finish (progress : Progress) : Compilation :=
  let done := progress.commit
  { program := done.program
    notes := done.notes.mergeSort fun a b => a.line ≤ b.line
    headerLines := done.headerLines }

end Progress

namespace Compilation

/-- Compiles the lines before the first terminator. -/
def ofLines (lines : List Line) : Compilation :=
  ((lines.takeWhile (·.construct ≠ .terminator)).foldl Progress.step {}).finish

/-- Compiles a source text. -/
def ofSource (source : String) : Compilation :=
  ofLines (lines source)

end Compilation

end ChatFlow.Source

namespace ChatFlow

/-- The program of a source text. -/
def Program.ofSource (source : String) : Program :=
  (Source.Compilation.ofSource source).program

end ChatFlow
