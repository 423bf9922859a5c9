import ChatFlow.Json.Reading
import ChatFlow.Text.Digits

/-!
# Reading JSON text

Scanning turns a text into a `Reading` from left to right.  Each part returns
what it found with the text after it, or with nothing if the rest of the text
is of no interest because of a fault that also stops skipping.
-/

namespace ChatFlow.Json

open ChatFlow.Text

/-- White space between the parts of a JSON text. -/
def isSpace (c : Char) : Bool :=
  c = ' ' || c = '\n' || c = '\t' || c = '\r'

def skipSpace (text : List Char) : List Char :=
  text.dropWhile isSpace

/-- A fault that stops reading and skipping alike. -/
def stopped (fault : Fault) : Reading :=
  .broken fault (some fault)

/-- What a scan found and the text after it. -/
abbrev Scanned := Reading × Option (List Char)

/-! ## Words -/

/-- Scans the rest of a word that stands for a value. -/
def scanWord (value : Reading) : List Char → List Char → Scanned
  | [], text => (value, some text)
  | _ :: _, [] => (stopped .cutShort, none)
  | c :: word, d :: text =>
      if c = d then scanWord value word text else (stopped .malformed, none)

/-! ## Text in quotes -/

/-- The value of four hexadecimal digits, which have to stand at the start. -/
def fourHex? (text : List Char) : Option Nat :=
  match text with
  | a :: b :: c :: d :: _ => do
      let a ← hexValue? a
      let b ← hexValue? b
      let c ← hexValue? c
      let d ← hexValue? d
      some (((a * 16 + b) * 16 + c) * 16 + d)
  | _ => none

/-- How a text fails to start with four hexadecimal digits: it has to hold
four bytes before its end. -/
def hexFault (text : List Char) : Fault :=
  if (String.ofList (text.take 4)).utf8ByteSize < 4 then .cutShort else .malformed

/-- The character that an escape of one letter stands for. -/
def shortEscape? : Char → Option Char
  | '"' => some '"'
  | '\\' => some '\\'
  | '/' => some '/'
  | 'b' => some '\x08'
  | 'f' => some '\x0c'
  | 'n' => some '\n'
  | 'r' => some '\r'
  | 't' => some '\t'
  | _ => none

/-- Code units up to the closing quote, after those found so far (the last
one first): characters by their code points, and hexadecimal escapes by their
values.  With them comes the text after the quote, or a fault. -/
def scanUnits (found : List Nat) : List Char → List Nat × Except Fault (List Char)
  | [] => (found.reverse, .error .cutShort)
  | '"' :: rest => (found.reverse, .ok rest)
  | ['\\'] => (found.reverse, .error .cutShort)
  | '\\' :: 'u' :: rest =>
      match fourHex? rest with
      | some unit =>
          match rest with
          | _ :: _ :: _ :: _ :: after => scanUnits (unit :: found) after
          | _ => (found.reverse, .error .cutShort)
      | none => (found.reverse, .error (hexFault rest))
  | '\\' :: c :: rest =>
      match shortEscape? c with
      | some plain => scanUnits (plain.toNat :: found) rest
      | none => (found.reverse, .error .malformed)
  | c :: rest =>
      if c.toNat < 0x20 then (found.reverse, .error .malformed)
      else scanUnits (c.toNat :: found) rest

def isHighSurrogate (unit : Nat) : Bool :=
  0xD800 ≤ unit && unit ≤ 0xDBFF

def isLowSurrogate (unit : Nat) : Bool :=
  0xDC00 ≤ unit && unit ≤ 0xDFFF

/-- The characters that code units stand for, or nothing if a surrogate is
not half of a pair. -/
def joinUnits : List Nat → Option (List Char)
  | [] => some []
  | [unit] =>
      if isHighSurrogate unit || isLowSurrogate unit then none else some [Char.ofNat unit]
  | unit :: next :: rest =>
      if isHighSurrogate unit then
        if isLowSurrogate next then
          (joinUnits rest).map
            (Char.ofNat (0x10000 + (unit - 0xD800) * 0x400 + (next - 0xDC00)) :: ·)
        else none
      else if isLowSurrogate unit then none
      else (joinUnits (next :: rest)).map (Char.ofNat unit :: ·)

/-- The code units without a first half of a pair at their end. -/
def dropOpenPair (units : List Nat) : List Nat :=
  if units.getLast?.any isHighSurrogate then units.dropLast else units

/-- Scans text after its opening quote. -/
def scanText (text : List Char) : Scanned :=
  match scanUnits [] text with
  | (units, .ok rest) =>
      match joinUnits units with
      | some characters => (.text (String.ofList characters), some rest)
      | none => (.brokenText .malformed none, some rest)
  | (units, .error fault) =>
      match joinUnits (dropOpenPair units) with
      | some _ => (.brokenText fault (some fault), none)
      | none => (.brokenText .malformed (some fault), none)

/-! ## Numbers -/

/-- A number as a whole number of at most sixty-four bits, scaled by a power
of ten; digits past these bits are dropped. -/
structure Scaled where
  significand : Nat
  exponent : Int

def takesDigit (significand : Nat) (c : Char) : Bool :=
  significand * 10 + digitValue c < UInt64.size

/-- Takes the digits before the point. -/
def Scaled.takeWhole : Scaled → List Char → Scaled
  | scaled, [] => scaled
  | ⟨significand, exponent⟩, c :: digits =>
      if takesDigit significand c then
        takeWhole ⟨significand * 10 + digitValue c, exponent⟩ digits
      else ⟨significand, exponent + (digits.length + 1)⟩

/-- Takes the digits after the point. -/
def Scaled.takeFraction : Scaled → List Char → Scaled
  | scaled, [] => scaled
  | ⟨significand, exponent⟩, c :: digits =>
      if takesDigit significand c then
        takeFraction ⟨significand * 10 + digitValue c, exponent - 1⟩ digits
      else ⟨significand, exponent⟩

def powerOfTen (exponent : Nat) : Float :=
  Float.ofScientific 1 false exponent

/-- Multiplies by a power of ten, or divides in steps that a power of ten is
representable in; nothing if the result is too large. -/
def scale? : Nat → Float → Int → Option Float
  | steps, x, exponent =>
      if exponent.natAbs ≤ 308 then
        if exponent < 0 then some (x / powerOfTen exponent.natAbs)
        else
          let product := x * powerOfTen exponent.natAbs
          if product.isInf then none else some product
      else if x == 0 then some x
      else if 0 ≤ exponent then none
      else match steps with
        | 0 => some 0
        | steps + 1 => scale? steps (x / powerOfTen 308) (exponent + 308)

/-- The value of a number with a fraction, an exponent or too many digits. -/
def real? (negative : Bool) (scaled : Scaled) : Option Float :=
  (scale? 4 (UInt64.ofNat scaled.significand).toFloat scaled.exponent).map fun x =>
    if negative then -x else x

/-- The parts of a number's text. -/
structure Numeral where
  negative : Bool
  whole : List Char
  fraction? : Option (List Char)
  /-- Whether the exponent is below zero, and its digits. -/
  exponent? : Option (Bool × List Char)

/-- Exponents of more than thirty-two bits are beyond every number but zero. -/
def exponentLimit : Nat := 0x80000000

def Numeral.real? (numeral : Numeral) : Option Float :=
  let scaled := (Scaled.mk 0 0).takeWhole numeral.whole
  let scaled := scaled.takeFraction (numeral.fraction?.getD [])
  match numeral.exponent? with
  | none => Json.real? numeral.negative scaled
  | some (below, digits) =>
      let size := valueOfDigits digits
      if size < exponentLimit then
        let shift : Int := if below then -size else size
        Json.real? numeral.negative { scaled with exponent := scaled.exponent + shift }
      else if scaled.significand != 0 && !below then none
      else some (if numeral.negative then -0.0 else 0.0)

/-- The number, unless it is out of range. -/
def Numeral.number? (numeral : Numeral) : Option Number :=
  let size := valueOfDigits numeral.whole
  let isWhole := numeral.fraction?.isNone && numeral.exponent?.isNone
  if isWhole && !numeral.negative && size < UInt64.size then
    some (.natural (UInt64.ofNat size))
  else if isWhole && numeral.negative && 0 < size && size ≤ signedLimit then
    some (.negative size)
  else numeral.real?.map .real

/-- A number that lacks digits: at the end of the text, reading it reports
another fault than skipping it. -/
def lacksDigits (rest : List Char) : Scanned :=
  (.broken (if rest.isEmpty then .cutShort else .malformed) (some .malformed), none)

/-- Digits after a point, if there is one. -/
def scanFraction (text : List Char) : Option (List Char) × List Char :=
  match text with
  | '.' :: rest => (some (spanDigits rest).1, (spanDigits rest).2)
  | _ => (none, text)

/-- Sign and digits after an exponent mark, if there is one. -/
def scanExponent (text : List Char) : Option (Bool × List Char) × List Char :=
  let signed (rest : List Char) :=
    match rest with
    | '-' :: digits => (some (true, (spanDigits digits).1), (spanDigits digits).2)
    | '+' :: digits => (some (false, (spanDigits digits).1), (spanDigits digits).2)
    | digits => (some (false, (spanDigits digits).1), (spanDigits digits).2)
  match text with
  | 'e' :: rest | 'E' :: rest => signed rest
  | _ => (none, text)

/-- Scans a number from its sign or first digit on. -/
def scanNumber (text : List Char) : Scanned :=
  let (negative, unsigned) :=
    match text with
    | '-' :: rest => (true, rest)
    | _ => (false, text)
  let (whole, afterWhole) := spanDigits unsigned
  if whole.isEmpty then lacksDigits afterWhole
  else if whole.head? = some '0' && 1 < whole.length then (stopped .malformed, none)
  else
    let (fraction?, afterFraction) := scanFraction afterWhole
    if fraction? = some [] then lacksDigits afterFraction
    else
      let (exponent?, rest) := scanExponent afterFraction
      if exponent?.any (·.2.isEmpty) then lacksDigits rest
      else
        match Numeral.number? { negative, whole, fraction?, exponent? } with
        | some number => (.number number, some rest)
        | none => (.broken .malformed none, some rest)

/-! ## Values -/

mutual

/-- Scans a value; `fuel` bounds the parts still to be scanned. -/
def scanValue (fuel : Nat) (text : List Char) : Scanned :=
  match fuel with
  | 0 => (.absent, none)
  | fuel + 1 =>
      match skipSpace text with
      | [] => (.absent, none)
      | 'n' :: rest => scanWord .null "ull".toList rest
      | 't' :: rest => scanWord (.bool true) "rue".toList rest
      | 'f' :: rest => scanWord (.bool false) "alse".toList rest
      | '"' :: rest => scanText rest
      | '[' :: rest =>
          match skipSpace rest with
          | ']' :: after => (.array [] none, some after)
          | rest =>
              let (items, ending, after) := scanItems fuel rest
              (.array items ending, after)
      | '{' :: rest =>
          match skipSpace rest with
          | '}' :: after => (.object [] none, some after)
          | rest =>
              let (members, ending, after) := scanMembers fuel rest
              (.object members ending, after)
      | c :: rest =>
          if c = '-' || c.isDigit then scanNumber (c :: rest)
          else (stopped .malformed, none)

/-- Scans the items of an array, of which one has to come. -/
def scanItems (fuel : Nat) (text : List Char) :
    List Reading × Option Fault × Option (List Char) :=
  match fuel with
  | 0 => ([.absent], none, none)
  | fuel + 1 =>
      let (item, after?) := scanValue fuel text
      match after?.map skipSpace with
      | none => ([item], none, none)
      | some (']' :: rest) => ([item], none, some rest)
      | some (',' :: rest) =>
          let (items, ending, after) := scanItems fuel rest
          (item :: items, ending, after)
      | some [] => ([item], some .cutShort, none)
      | some _ => ([item], some .malformed, none)

/-- Scans the members of an object, of which one has to come. -/
def scanMembers (fuel : Nat) (text : List Char) :
    List (Reading × Reading) × Option Fault × Option (List Char) :=
  match fuel with
  | 0 => ([(.absent, .absent)], none, none)
  | fuel + 1 =>
      let (key, afterKey?) :=
        match skipSpace text with
        | '"' :: rest => scanText rest
        | other => ((scanValue fuel other).1, none)
      match afterKey?.map skipSpace with
      | none => ([(key, .absent)], none, none)
      | some [] => ([(key, .absent)], none, none)
      | some (':' :: rest) =>
          let (value, after?) := scanValue fuel rest
          match after?.map skipSpace with
          | none => ([(key, value)], none, none)
          | some ('}' :: rest) => ([(key, value)], none, some rest)
          | some (',' :: rest) =>
              let (members, ending, after) := scanMembers fuel rest
              ((key, value) :: members, ending, after)
          | some [] => ([(key, value)], some .cutShort, none)
          | some _ => ([(key, value)], some .malformed, none)
      | some _ => ([(key, stopped .malformed)], none, none)

end

/-- What a whole text holds: a value and what stands after it.  No character
opens more than two parts. -/
def scan (text : List Char) : Scanned :=
  scanValue (2 * text.length + 2) text

/-- Reads a text as one value and nothing else. -/
def read {α : Type} (decode : Reading → Result α) (text : String) : Result α := do
  let (reading, after?) := scan text.toList
  let value ← decode reading
  match skipSpace (after?.getD []) with
  | [] => .ok value
  | _ => .error (.fault .malformed)

end ChatFlow.Json
