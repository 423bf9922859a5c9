import ChatFlow.Text.Digits
import ChatFlow.Toml.Space

/-!
# Quoted text of TOML

Text stands between quotes on one line, or as a block between triple quotes.
A block leaves out a line end directly after its opening, and its other line
ends are line feeds; it may end with one or two quotes of its own.  Between
double quotes a backslash starts an escape, and in a block one that ends its
line takes away the space up to the next other character.
-/

namespace ChatFlow.Toml

/-- What is read from the front of a text, with the text after it. -/
abbrev Scan (α : Type) := List Char → Option (α × List Char)

/-- The character that an escape of one letter stands for. -/
def shortEscape? : Char → Option Char
  | 'b' => some '\x08'
  | 't' => some '\t'
  | 'n' => some '\n'
  | 'f' => some '\x0c'
  | 'r' => some '\r'
  | '"' => some '"'
  | '\\' => some '\\'
  | _ => none

/-- How many hexadecimal digits an escape of this letter has. -/
def codeLength? : Char → Option Nat
  | 'u' => some 4
  | 'U' => some 8
  | _ => none

/-- Where text between double quotes is in. -/
inductive Quoting
  | plain
  /-- After a backslash. -/
  | escaped
  /-- Inside a code point with digits left and a value so far. -/
  | code (left value : Nat)
  /-- After a backslash and space, before the line end. -/
  | folding
  /-- After a line end with a backslash. -/
  | folded
deriving DecidableEq

/-- Puts a character in front of the text that is read. -/
def prepend (c : Char) : Option (List Char × List Char) → Option (List Char × List Char) :=
  Option.map fun (characters, rest) => (c :: characters, rest)

/-- The end of a block after its closing quotes: up to two more quotes belong
to the block. -/
def closeBlock (quote : Char) (text : List Char) : Option (List Char × List Char) :=
  let extra := text.takeWhile (· = quote)
  if extra.length ≤ 2 then some (extra, text.dropWhile (· = quote)) else none

/-- Reads text after an opening double quote or three of them. -/
def readBasic (block : Bool) (quoting : Quoting) : Scan (List Char)
  | [] => none
  | c :: rest =>
      if block && c = '\r' && endsLine c rest then readBasic block quoting rest
      else
        match quoting with
        | .escaped =>
            match codeLength? c, shortEscape? c with
            | some length, _ => readBasic block (.code length 0) rest
            | none, some plain => prepend plain (readBasic block .plain rest)
            | none, none =>
                if block && isSpace c then readBasic block .folding rest
                else if block && c = '\n' then readBasic block .folded rest
                else none
        | .code left value =>
            match Text.hexValue? c with
            | none => none
            | some digit =>
                let value := value * 16 + digit
                if 1 < left then readBasic block (.code (left - 1) value) rest
                else if value.isValidChar then
                  prepend (Char.ofNat value) (readBasic block .plain rest)
                else none
        | .folding =>
            if isSpace c then readBasic block .folding rest
            else if c = '\n' then readBasic block .folded rest
            else none
        | .plain | .folded =>
            if quoting = .folded && (isSpace c || c = '\n') then
              readBasic block .folded rest
            else if c = '\\' then readBasic block .escaped rest
            else if c = '"' then
              if block then
                match rest with
                | '"' :: '"' :: after => closeBlock '"' after
                | _ => prepend c (readBasic block .plain rest)
              else some ([], rest)
            else if isText c || (block && c = '\n') then
              prepend c (readBasic block .plain rest)
            else none

/-- Reads text after an opening single quote or three of them. -/
def readLiteral (block : Bool) : Scan (List Char)
  | [] => none
  | c :: rest =>
      if block && c = '\r' && endsLine c rest then readLiteral block rest
      else if c = '\'' then
        if block then
          match rest with
          | '\'' :: '\'' :: after => closeBlock '\'' after
          | _ => prepend c (readLiteral block rest)
        else some ([], rest)
      else if isText c || (block && c = '\n') then prepend c (readLiteral block rest)
      else none

/-- Reads text in quotes on one line. -/
def readLine : Scan (List Char)
  | '"' :: rest => readBasic false .plain rest
  | '\'' :: rest => readLiteral false rest
  | _ => none

/-- Reads text in quotes. -/
def readText : Scan (List Char)
  | '"' :: '"' :: '"' :: rest => readBasic true .plain ((newline? rest).getD rest)
  | '\'' :: '\'' :: '\'' :: rest => readLiteral true ((newline? rest).getD rest)
  | other => readLine other

end ChatFlow.Toml
