/-!
# Space, comments and line ends of TOML

A line ends with a line feed, before which a carriage return may stand, or
with the text.  A comment goes from its mark to the end of the line and holds
no control character but the tab.
-/

namespace ChatFlow.Toml

def isSpace (c : Char) : Bool :=
  c = ' ' || c = '\t'

def skipSpace (text : List Char) : List Char :=
  text.dropWhile isSpace

/-- The characters that may stand in text and comments. -/
def isText (c : Char) : Bool :=
  c = '\t' || (0x20 ≤ c.toNat && c.toNat ≠ 0x7F)

/-- Whether a line ends with this character and what follows it. -/
def endsLine (c : Char) (rest : List Char) : Bool :=
  c = '\n' || (c = '\r' && rest.head? = some '\n')

/-- The text after a line end, if it starts with one. -/
def newline? : List Char → Option (List Char)
  | '\n' :: rest => some rest
  | '\r' :: '\n' :: rest => some rest
  | _ => none

/-- The text after the space and the comment that end a line. -/
def lineEnd? (text : List Char) : Option (List Char) :=
  let unspaced := skipSpace text
  let uncommented :=
    if unspaced.head? = some '#' then unspaced.dropWhile isText else unspaced
  if uncommented.isEmpty then some [] else newline? uncommented

/-- Skips comments, starting inside of one or not. -/
def skipComments (inside : Bool) : List Char → List Char
  | [] => []
  | c :: rest =>
      if inside && isText c then skipComments true rest
      else if c = '#' then skipComments true rest
      else if isSpace c || endsLine c rest then skipComments false rest
      else c :: rest

/-- Skips space, line ends and comments. -/
def skipFiller (text : List Char) : List Char :=
  skipComments false text

end ChatFlow.Toml
