import ChatFlow.Name
import ChatFlow.Text.Blank

/-!
# Constructs of the flow language

The flow language is line oriented: every meaningful line is one construct.
Each construct has a recogniser, and a line is what the first recogniser that
fits it says; a line that none fits is kept with its text.

Headers and openers end with a colon.  White space may stand before the
colon, before the digits of a button opener and, for a flow header, has to
stand between the keyword and the name.
-/

namespace ChatFlow.Source

open ChatFlow.Text

/-- What one meaningful line of flow source says. -/
inductive Construct
  /-- Opens the entry flow. -/
  | entryHeader
  | flowHeader (name : String)
  /-- Message text follows. -/
  | messageOpener
  /-- Buttons follow; the index is kept as written and has no meaning. -/
  | buttonOpener (index : String)
  | quoted (text : String)
  | arrow (label target : String)
  /-- Ends the source. -/
  | terminator
  | unrecognized (text : String)
deriving DecidableEq, Repr, Inhabited

namespace Construct

/-- What stands between a keyword that opens the line and a colon that ends it. -/
def body? (keyword : String) (line : List Char) : Option (List Char) :=
  (List.isPrefixOf? keyword.toList line).bind fun rest => List.isSuffixOf? [':'] rest

/-- A keyword alone before a colon. -/
def isOpener (keyword : String) (line : List Char) : Bool :=
  (body? keyword line).any fun rest => rest.all isBlank

def entryHeader? (line : List Char) : Option Construct :=
  if line = entryName.toList || isOpener entryName line then some .entryHeader else none

def flowHeader? (line : List Char) : Option Construct :=
  (body? "fluxo" line).bind fun rest =>
    if rest.head?.any isBlank && isIdentifier (trim rest) then
      some (.flowHeader (String.ofList (trim rest)))
    else none

def messageOpener? (line : List Char) : Option Construct :=
  if isOpener "mensagem" line then some .messageOpener else none

def buttonOpener? (line : List Char) : Option Construct :=
  (body? "botao" line).bind fun rest =>
    let index := trim rest
    if !index.isEmpty && index.all Char.isDigit then
      some (.buttonOpener (String.ofList index))
    else none

/-- Only the outer quotes count; inner ones belong to the text. -/
def quoted? (line : List Char) : Option Construct :=
  (List.isPrefixOf? ['"'] line).bind fun rest =>
    (List.isSuffixOf? ['"'] rest).map fun text => .quoted (String.ofList text)

/-- The label ends at the first quote after it starts. -/
def arrow? (line : List Char) : Option Construct :=
  (List.isPrefixOf? ['"'] line).bind fun rest =>
    let label := rest.takeWhile (· != '"')
    (List.isPrefixOf? ['"'] (rest.dropWhile (· != '"'))).bind fun afterLabel =>
      (List.isPrefixOf? ['-', '>'] (trimStart afterLabel)).bind fun afterArrow =>
        let target := trim afterArrow
        if !label.isEmpty && isIdentifier target then
          some (.arrow (String.ofList label) (String.ofList target))
        else none

def terminator? (line : List Char) : Option Construct :=
  if line = "fim".toList then some .terminator else none

/-- The construct of a line: that of the first recogniser that fits. -/
def ofLine (line : String) : Construct :=
  let text := line.toList
  (entryHeader? text <|> flowHeader? text <|> messageOpener? text <|>
    buttonOpener? text <|> quoted? text <|> arrow? text <|>
    terminator? text).getD (.unrecognized line)

end Construct

end ChatFlow.Source
