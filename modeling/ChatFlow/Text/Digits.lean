/-!
# Whole numbers as text

Decimal digits are the ten ASCII ones, and hexadecimal digits go on with six
ASCII letters of either case.  An unsigned number is a non-empty run
of digits, after a plus sign or none, whose value fits sixty-four bits; a
signed one may also follow a minus sign.
-/

namespace ChatFlow.Text

def digitValue (c : Char) : Nat :=
  c.toNat - '0'.toNat

/-- The value of a run of digits, the most significant first. -/
def valueOfDigits (digits : List Char) : Nat :=
  digits.foldl (fun value c => value * 10 + digitValue c) 0

/-- The value of a hexadecimal digit in upper or lower case. -/
def hexValue? (c : Char) : Option Nat :=
  if c.isDigit then some (digitValue c)
  else if 'a' ≤ c ∧ c ≤ 'f' then some (c.toNat - 'a'.toNat + 10)
  else if 'A' ≤ c ∧ c ≤ 'F' then some (c.toNat - 'A'.toNat + 10)
  else none

def isDigits (text : List Char) : Bool :=
  !text.isEmpty && text.all Char.isDigit

/-- The leading digits of a text and what follows them. -/
def spanDigits (text : List Char) : List Char × List Char :=
  (text.takeWhile Char.isDigit, text.dropWhile Char.isDigit)

/-- The decimal digits of a number. -/
def decimal (n : Nat) : List Char :=
  Nat.toDigits 10 n

/-- The decimal digits of a number after a minus sign, if it needs one. -/
def signedDecimal (n : Int) : List Char :=
  if n < 0 then '-' :: decimal n.natAbs else decimal n.natAbs

/-- The digits with zeros before them, up to a width. -/
def padLeft (width : Nat) (digits : List Char) : List Char :=
  List.replicate (width - digits.length) '0' ++ digits

def withoutPlus : List Char → List Char
  | '+' :: rest => rest
  | text => text

/-- Signed numbers of sixty-four bits lie below this one, and not below it
negated. -/
def signedLimit : Nat := 0x8000000000000000

/-- Reads an unsigned number of sixty-four bits. -/
def unsigned? (text : List Char) : Option UInt64 :=
  let digits := withoutPlus text
  if isDigits digits && valueOfDigits digits < UInt64.size then
    some (UInt64.ofNat (valueOfDigits digits))
  else none

/-- Reads a signed number of sixty-four bits. -/
def signed? (text : List Char) : Option Int :=
  match text with
  | '-' :: digits =>
      if isDigits digits && valueOfDigits digits ≤ signedLimit then
        some (-(valueOfDigits digits : Int))
      else none
  | _ =>
      let digits := withoutPlus text
      if isDigits digits && valueOfDigits digits < signedLimit then
        some (valueOfDigits digits : Int)
      else none

end ChatFlow.Text
