import ChatFlow.Decimal.Binary64
import ChatFlow.Text.Digits

/-!
# Reading decimals

A decimal is a sign or none, digits with a point anywhere among or around
them, and an exponent or none.  Infinity and what is no number are written as
words in either case.  Reading gives the nearest number of binary64.
-/

namespace ChatFlow.Decimal

/-- The parts of a decimal's text. -/
structure Numeral where
  negative : Bool
  whole : List Char
  fraction : List Char
  exponent : Int
deriving DecidableEq, Repr

/-- Beyond this power of ten every number is infinite, and below its inverse
every number is zero. -/
def powerLimit : Int := 400

/-- The number that a decimal stands for. -/
def Numeral.value (numeral : Numeral) : Binary64 :=
  let digits := (numeral.whole ++ numeral.fraction).dropWhile (· = '0')
  let power := numeral.exponent - numeral.fraction.length
  let point : Int := power + digits.length
  if digits.isEmpty || point < -powerLimit then .nearest numeral.negative 0 1
  else if powerLimit < point then .infinite numeral.negative
  else if power < 0 then
    .nearest numeral.negative (Text.valueOfDigits digits) (Nat.pow 10 power.natAbs)
  else .nearest numeral.negative (Text.valueOfDigits digits * Nat.pow 10 power.natAbs) 1

/-- The sign at the start of a text, and the text after it. -/
def spanSign : List Char → Bool × List Char
  | '-' :: rest => (true, rest)
  | '+' :: rest => (false, rest)
  | text => (false, text)

/-- The exponent that makes up a text, if there is no other text. -/
def exponent? : List Char → Option Int
  | [] => some 0
  | mark :: rest =>
      if mark = 'e' || mark = 'E' then
        let (below, digits) := spanSign rest
        if Text.isDigits digits then
          let size := Text.valueOfDigits digits
          some (if below then -size else size)
        else none
      else none

/-- The digits after a point, if there is one, and the text after them. -/
def spanFraction : List Char → List Char × List Char
  | '.' :: rest => Text.spanDigits rest
  | text => ([], text)

/-- The parts of a text that is a decimal of digits. -/
def numeral? (text : List Char) : Option Numeral :=
  let (negative, unsigned) := spanSign text
  let (whole, afterWhole) := Text.spanDigits unsigned
  let (fraction, afterFraction) := spanFraction afterWhole
  if whole.isEmpty && fraction.isEmpty then none
  else (exponent? afterFraction).map fun exponent => { negative, whole, fraction, exponent }

/-- The number that a word stands for. -/
def word? (text : List Char) : Option Binary64 :=
  let (negative, unsigned) := spanSign text
  let lower := unsigned.map Char.toLower
  if lower = "nan".toList then some .nan
  else if lower = "inf".toList || lower = "infinity".toList then some (.infinite negative)
  else none

/-- Reads a decimal. -/
def read? (text : List Char) : Option Binary64 :=
  match numeral? text with
  | some numeral => some numeral.value
  | none => word? text

end ChatFlow.Decimal
