import ChatFlow.Decimal.Read
import ChatFlow.Settings.Setting
import ChatFlow.Toml.Moment

/-!
# Scalars of TOML

Numbers may have underscores between digits and no superfluous zero in front.
Whole numbers are signed with sixty-four bits.
-/

namespace ChatFlow.Toml

/-! ## Digits -/

/-- Digits that go on after a digit, with underscores between them. -/
def moreDigits (isDigit : Char → Bool) : List Char → List Char × List Char
  | [] => ([], [])
  | '_' :: c :: rest =>
      if isDigit c then
        let (digits, after) := moreDigits isDigit rest
        (c :: digits, after)
      else ([], '_' :: c :: rest)
  | c :: rest =>
      if isDigit c then
        let (digits, after) := moreDigits isDigit rest
        (c :: digits, after)
      else ([], c :: rest)

/-- Reads digits, of which there has to be one. -/
def readDigits (isDigit : Char → Bool) : Scan (List Char)
  | [] => none
  | c :: rest =>
      if isDigit c then
        let (digits, after) := moreDigits isDigit rest
        some (c :: digits, after)
      else none

/-- Reads a sign, if there is one. -/
def readSign : List Char → List Char × List Char
  | '+' :: rest => (['+'], rest)
  | '-' :: rest => (['-'], rest)
  | text => ([], text)

/-- Reads the digits of a whole number without a zero in front. -/
def readWhole : Scan (List Char)
  | '0' :: rest => some (['0'], rest)
  | text => readDigits Char.isDigit text

/-! ## Numbers -/

/-- Whether a whole number fits sixty-four bits with its sign. -/
def inRange (value : Int) : Bool :=
  -(Text.signedLimit : Int) ≤ value && value < Text.signedLimit

/-- The value of digits in a base. -/
def valueInBase (base : Nat) (digits : List Char) : Nat :=
  digits.foldl (fun value c => value * base + (Text.hexValue? c).getD 0) 0

/-- Reads the digits of a whole number in another base than ten. -/
def readInBase (base : Nat) : Scan Setting := fun text => do
  let isDigit (c : Char) := (Text.hexValue? c).any (· < base)
  let (digits, rest) ← readDigits isDigit text
  let value : Int := valueInBase base digits
  if inRange value then some (.integer value, rest) else none

def readInteger : Scan Setting
  | '0' :: 'x' :: rest => readInBase 16 rest
  | '0' :: 'o' :: rest => readInBase 8 rest
  | '0' :: 'b' :: rest => readInBase 2 rest
  | text => do
      let (sign, unsigned) := readSign text
      let (digits, rest) ← readWhole unsigned
      let value ← Text.signed? (sign ++ digits)
      some (.integer value, rest)

/-- Reads the fraction of a number with its point. -/
def readFraction : Scan (List Char)
  | '.' :: text => do
      let (digits, rest) ← readDigits Char.isDigit text
      some ('.' :: digits, rest)
  | _ => none

/-- Reads the exponent of a number with its mark. -/
def readExponent : Scan (List Char)
  | [] => none
  | mark :: text =>
      if mark = 'e' || mark = 'E' then do
        let (sign, unsigned) := readSign text
        let (digits, rest) ← readDigits Char.isDigit unsigned
        some (mark :: sign ++ digits, rest)
      else none

/-- Reads what makes a number more than a whole one. -/
def readTail (text : List Char) : Option (List Char × List Char) :=
  match readFraction text with
  | none => readExponent text
  | some (fraction, rest) =>
      match readExponent rest with
      | none => some (fraction, rest)
      | some (exponent, rest) => some (fraction ++ exponent, rest)

/-- Reads a number with a fraction or an exponent; only below zero may it be
too large. -/
def readReal : Scan Setting := fun text => do
  let (sign, unsigned) := readSign text
  let (whole, afterWhole) ← readWhole unsigned
  let (tail, rest) ← readTail afterWhole
  let value ← Decimal.read? (sign ++ whole ++ tail)
  if value = .infinite false then none else some (.real value, rest)

/-- Reads infinity or what is no number. -/
def readSpecial : Scan Setting := fun text =>
  let (sign, unsigned) := readSign text
  match unsigned with
  | 'i' :: 'n' :: 'f' :: rest => some (.real (.infinite (sign = ['-'])), rest)
  | 'n' :: 'a' :: 'n' :: rest => some (.real .nan, rest)
  | _ => none

/-! ## Scalars -/

def readBool : Scan Setting
  | 't' :: 'r' :: 'u' :: 'e' :: rest => some (.bool true, rest)
  | 'f' :: 'a' :: 'l' :: 's' :: 'e' :: rest => some (.bool false, rest)
  | _ => none

def readQuoted : Scan Setting := fun text =>
  (readText text).map fun (characters, rest) => (.text (String.ofList characters), rest)

def readMoment : Scan Setting := fun text =>
  (Moment.read .bare text).map fun (characters, rest) => (Moment.table characters, rest)

/-- Reads a value that holds no other one. -/
def readScalar : Scan Setting := fun text =>
  readQuoted text <|> readBool text <|> readMoment text <|> readReal text <|>
    readSpecial text <|> readInteger text

end ChatFlow.Toml
