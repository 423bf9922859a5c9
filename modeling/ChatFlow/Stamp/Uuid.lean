import ChatFlow.Text.Digits

/-!
# Universally unique identifiers

An identifier is thirty-two hexadecimal digits.  It is written in lower case
in five groups; it is also read without the hyphens, in braces, or as a URN,
and in either case.
-/

namespace ChatFlow

def isLowerHex (c : Char) : Bool :=
  c.isDigit || ('a' ≤ c && c ≤ 'f')

structure Uuid where
  /-- The digits in lower case. -/
  digits : List Char
  length_digits : digits.length = 32
  all_digits : digits.all isLowerHex = true
deriving DecidableEq, Repr

namespace Uuid

/-- Lengths of the groups of digits between hyphens. -/
def groupLengths : List Nat :=
  [8, 4, 4, 4, 12]

/-- Writes groups of the given lengths with hyphens between them. -/
def joinGroups : List Nat → List Char → List Char
  | [], _ => []
  | [_], digits => digits
  | length :: rest, digits =>
      digits.take length ++ '-' :: joinGroups rest (digits.drop length)

/-- Takes groups of the given lengths out of their hyphens. -/
def splitGroups? : List Nat → List Char → Option (List Char)
  | [], _ => none
  | [length], text => if text.length = length then some text else none
  | length :: rest, text =>
      if (text.take length).length = length then
        match text.drop length with
        | '-' :: after => (splitGroups? rest after).map (text.take length ++ ·)
        | _ => none
      else none

def text (uuid : Uuid) : String :=
  String.ofList (joinGroups groupLengths uuid.digits)

/-- What stands between braces. -/
def unbrace? (text : List Char) : Option (List Char) :=
  (List.isPrefixOf? ['\x7b'] text).bind fun rest => List.isSuffixOf? ['\x7d'] rest

/-- The start of an identifier as a URN, in lower case. -/
def urnMark : List Char :=
  "urn:uuid:".toList

/-- The digits of any of the four written forms. -/
def bareDigits? (text : List Char) : Option (List Char) :=
  if text.length = 32 then some text
  else if text.length = 36 then splitGroups? groupLengths text
  else if text.length = 38 then (unbrace? text).bind (splitGroups? groupLengths)
  else if text.length = 45 then
    if (text.take 9).map Char.toLower = urnMark then splitGroups? groupLengths (text.drop 9)
    else none
  else none

def ofText? (text : String) : Option Uuid :=
  (bareDigits? text.toList).bind fun bare =>
    let digits := bare.map Char.toLower
    if h : digits.length = 32 ∧ digits.all isLowerHex = true then
      some ⟨digits, h.1, h.2⟩
    else none

end Uuid

end ChatFlow
