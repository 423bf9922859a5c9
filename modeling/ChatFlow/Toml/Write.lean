import ChatFlow.Settings.Basic
import ChatFlow.Text.Digits
import ChatFlow.Toml.Space

/-!
# Writing settings as TOML

Text is written in the plainest form that shows it as it is: between double
quotes, between single ones, or as a block between three of either.  Text that
no form shows as it is has escapes between double quotes.
-/

namespace ChatFlow.Toml

/-! ## What stands in a text -/

/-- A control character that cannot stand for itself. -/
def isControl (c : Char) : Bool :=
  !isText c && c ≠ '\n'

/-- Whether so many of a quote follow each other. -/
def hasRun (quote : Char) (count : Nat) : List Char → Bool
  | [] => false
  | c :: rest =>
      (List.replicate count quote).isPrefixOf (c :: rest) || hasRun quote count rest

/-! ## Escapes -/

/-- A hexadecimal digit in upper case. -/
def hexDigit (value : Nat) : Char :=
  (Nat.digitChar value).toUpper

/-- A character other than a double quote as it stands between double quotes.
A line end stands for itself, because it makes a block. -/
def escape (c : Char) : List Char :=
  if c = '\x08' then ['\\', 'b']
  else if c = '\t' then ['\\', 't']
  else if c = '\x0c' then ['\\', 'f']
  else if c = '\r' then ['\\', 'r']
  else if c = '\\' then ['\\', '\\']
  else if isControl c then
    ['\\', 'u', '0', '0', hexDigit (c.toNat / 16), hexDigit (c.toNat % 16)]
  else [c]

/-- Text as it stands between double quotes, where so many of them may follow
each other without an escape; `run` of them come directly before. -/
def escapeText (limit run : Nat) : List Char → List Char
  | [] => []
  | c :: rest =>
      if c = '"' then
        if run < limit then '"' :: escapeText limit (run + 1) rest
        else '\\' :: '"' :: escapeText limit 0 rest
      else escape c ++ escapeText limit 0 rest

/-! ## Forms -/

/-- How a text is written. -/
inductive Form
  | basic
  | literal
  /-- A block between double quotes. -/
  | basicBlock
  /-- A block between single quotes. -/
  | literalBlock
deriving DecidableEq

namespace Form

/-- The forms that may show a text as it is, from plain to less plain. -/
def all : List Form :=
  [.basic, .literal, .basicBlock, .literalBlock]

/-- Whether a form shows a text as it is. -/
def shows (text : List Char) : Form → Bool
  | .basic => !text.any isControl && text.all fun c => c ∉ ['\\', '"', '\n']
  | .literal => !text.any isControl && text.all fun c => c ∉ ['\'', '\n']
  | .basicBlock => !text.any isControl && !text.contains '\\' && !hasRun '"' 3 text
  | .literalBlock => !text.any isControl && !hasRun '\'' 3 text

/-- The form for a text. -/
def of (text : List Char) : Form :=
  (all.find? (shows text)).getD (if text.contains '\n' then .basicBlock else .basic)

/-- The quotes in front of a text and after it. -/
def quotes : Form → List Char
  | .basic => ['"']
  | .literal => ['\'']
  | .basicBlock => List.replicate 3 '"'
  | .literalBlock => List.replicate 3 '\''

/-- What stands between the quotes. -/
def inside (text : List Char) : Form → List Char
  | .basic => escapeText 0 0 text
  | .literal | .literalBlock => text
  | .basicBlock => escapeText 2 0 text

end Form

/-- Text in quotes.  A block of several lines starts on a line of its own. -/
def writeText (text : List Char) : List Char :=
  let form := Form.of text
  let opening := if text.contains '\n' then ['\n'] else []
  form.quotes ++ opening ++ form.inside text ++ form.quotes

/-! ## Tables -/

/-- A table under a header: its name, and its keys with the text of their
values. -/
structure Table where
  name : String
  fields : List (String × List Char)

def Table.write (table : Table) : List Char :=
  '[' :: table.name.toList ++ [']', '\n'] ++
    table.fields.flatMap fun (key, value) => key.toList ++ " = ".toList ++ value ++ ['\n']

/-- The texts of tables, with an empty line between them. -/
def writeTables (tables : List Table) : List Char :=
  (List.intersperse ['\n'] (tables.map Table.write)).flatten

end ChatFlow.Toml

namespace ChatFlow.Settings

open ChatFlow.Toml (writeText writeTables)

/-- The greatest number that TOML has. -/
def greatestWindow : Nat := Text.signedLimit - 1

/-- Settings as TOML, unless their window is too large to be written. -/
def toToml? (settings : Settings) : Option String :=
  let messages := settings.options.messages
  let window := settings.options.window.toNat
  let quoted (text : String) := writeText text.toList
  if greatestWindow < window then none
  else
    some (String.ofList (writeTables
      [{ name := "messages"
         fields :=
          [("handoff_prompt", quoted messages.handoffPrompt),
            ("capture_confirmation", quoted messages.captureConfirmation),
            ("fallback", quoted messages.fallback)] },
        { name := "transcript"
          fields := [("visible_window", Text.decimal window)] },
        { name := "display"
          fields :=
            [("business_name", quoted settings.display.businessName),
              ("primary_color", quoted settings.display.primaryColor)] },
        { name := "logging"
          fields := [("level", quoted settings.logLevel)] }]))

end ChatFlow.Settings
