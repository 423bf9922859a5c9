import ChatFlow.Text.Blank
import ChatFlow.Text.Digits

/-!
# Points in time

A timestamp is a date and a time of day in coordinated universal time, down
to nanoseconds; its sixtieth second is a leap second.  It is written as in
RFC 3339, with as many digits of the fraction as are needed among none,
three, six and nine.  It is read more freely: with white space between the
parts, with parts of one digit, and with any offset of less than a day, which
is then taken off.
-/

namespace ChatFlow

open ChatFlow.Text

/-- A date and a time of day. -/
structure CivilTime where
  year : Int
  month : Nat
  day : Nat
  hour : Nat
  minute : Nat
  /-- Up to sixty, for a leap second. -/
  second : Nat
  nanosecond : Nat
deriving DecidableEq, Repr

namespace CivilTime

def isLeapYear (year : Int) : Bool :=
  year % 4 = 0 && (year % 100 ≠ 0 || year % 400 = 0)

def daysInMonth (year : Int) (month : Nat) : Nat :=
  if month = 2 then (if isLeapYear year then 29 else 28)
  else if month ∈ [4, 6, 9, 11] then 30
  else 31

def firstYear : Int := -262143

def lastYear : Int := 262142

def isValid (time : CivilTime) : Bool :=
  firstYear ≤ time.year && time.year ≤ lastYear &&
    1 ≤ time.month && time.month ≤ 12 &&
    1 ≤ time.day && time.day ≤ daysInMonth time.year time.month &&
    time.hour < 24 && time.minute < 60 && time.second ≤ 60 &&
    time.nanosecond < 1000000000

/-- The same time on the next day. -/
def nextDay (time : CivilTime) : CivilTime :=
  if time.day < daysInMonth time.year time.month then
    { time with day := time.day + 1 }
  else if time.month < 12 then { time with month := time.month + 1, day := 1 }
  else { time with year := time.year + 1, month := 1, day := 1 }

/-- The same time on the day before. -/
def previousDay (time : CivilTime) : CivilTime :=
  if 1 < time.day then { time with day := time.day - 1 }
  else if 1 < time.month then
    { time with
      month := time.month - 1
      day := daysInMonth time.year (time.month - 1) }
  else { time with year := time.year - 1, month := 12, day := 31 }

/-- Minutes in a day. -/
def dayLength : Int := 1440

/-- The time a number of minutes earlier, if that is less than a day. -/
def back (time : CivilTime) (minutes : Int) : CivilTime :=
  let total := (time.hour * 60 + time.minute : Int) - minutes
  let ofDay := (total % dayLength).toNat
  let shifted := { time with hour := ofDay / 60, minute := ofDay % 60 }
  if total < 0 then shifted.previousDay
  else if dayLength ≤ total then shifted.nextDay
  else shifted

end CivilTime

/-- A valid time in coordinated universal time. -/
structure Timestamp where
  time : CivilTime
  valid : time.isValid = true
deriving DecidableEq, Repr

namespace Timestamp

/-! ## Writing -/

def twoDigits (n : Nat) : List Char :=
  padLeft 2 (decimal n)

/-- Four digits, or a sign and at least four. -/
def yearText (year : Int) : List Char :=
  let digits := padLeft 4 (decimal year.natAbs)
  if year < 0 then '-' :: digits
  else if year < 10000 then digits
  else '+' :: digits

/-- The fraction of a second in none, three, six or nine digits. -/
def fractionText (nanosecond : Nat) : List Char :=
  if nanosecond = 0 then []
  else if nanosecond % 1000000 = 0 then '.' :: padLeft 3 (decimal (nanosecond / 1000000))
  else if nanosecond % 1000 = 0 then '.' :: padLeft 6 (decimal (nanosecond / 1000))
  else '.' :: padLeft 9 (decimal nanosecond)

def text (timestamp : Timestamp) : String :=
  let time := timestamp.time
  String.ofList
    (yearText time.year ++ '-' :: twoDigits time.month ++ '-' :: twoDigits time.day ++
      'T' :: twoDigits time.hour ++ ':' :: twoDigits time.minute ++
      ':' :: twoDigits time.second ++ fractionText time.nanosecond ++ ['Z'])

/-! ## Reading -/

/-- A part that is read from the front of a text, with the text after it. -/
abbrev Part (α : Type) := List Char → Option (α × List Char)

/-- A number of one to `most` digits after white space. -/
def numberUpTo (most : Nat) : Part Nat := fun text =>
  let text := trimStart text
  let digits := (text.take most).takeWhile Char.isDigit
  if digits.isEmpty then none
  else some (valueOfDigits digits, text.drop digits.length)

/-- A year of one to four digits, or of any number of digits after a sign. -/
def yearPart : Part Int := fun text =>
  match trimStart text with
  | '-' :: rest =>
      let (digits, after) := spanDigits rest
      if digits.isEmpty then none else some (-(valueOfDigits digits : Int), after)
  | '+' :: rest =>
      let (digits, after) := spanDigits rest
      if digits.isEmpty then none else some ((valueOfDigits digits : Int), after)
  | rest => (numberUpTo 4 rest).map fun (year, after) => ((year : Int), after)

/-- A separator after white space. -/
def separator (c : Char) (text : List Char) : Option (List Char) :=
  List.isPrefixOf? [c] (trimStart text)

/-- The mark between date and time. -/
def timeMark : List Char → Option (List Char)
  | c :: rest => if c ∈ ['t', 'T', ' '] then some rest else none
  | [] => none

/-- The fraction of a second, in nanoseconds; digits after the ninth do not
count. -/
def fractionPart : Part Nat := fun text =>
  match text with
  | '.' :: rest =>
      let (digits, after) := spanDigits rest
      let kept := digits.take 9
      if digits.isEmpty then none
      else some (valueOfDigits (kept ++ List.replicate (9 - kept.length) '0'), after)
  | _ => some (0, text)

/-- The sign of an offset: plus, hyphen or the minus sign. -/
def offsetSign : Part Int := fun text =>
  match text with
  | '+' :: rest => some (1, rest)
  | '-' :: rest => some (-1, rest)
  | '\u2212' :: rest => some (-1, rest)
  | _ => none

/-- Two digits whose first is below a bound. -/
def pairBelow (bound : Nat) : Part Nat := fun text =>
  match text with
  | a :: b :: rest =>
      if a.isDigit && b.isDigit && digitValue a < bound then
        some (digitValue a * 10 + digitValue b, rest)
      else none
  | _ => none

/-- An offset in minutes: a letter Z, the word UTC, or a sign with hours and
minutes; colons and white space between these do not count. -/
def offsetPart : Part Int := fun text =>
  if (text.take 3).map Char.toUpper = "UTC".toList then some (0, text.drop 3)
  else match text with
    | 'Z' :: rest | 'z' :: rest => some (0, rest)
    | _ => do
        let (sign, rest) ← offsetSign text
        let (hours, rest) ← pairBelow 10 rest
        let (minutes, rest) ←
          pairBelow 6 (rest.dropWhile fun c => c = ':' || isBlank c)
        if hours < 24 then some (sign * (hours * 60 + minutes : Int), rest) else none

/-- A timestamp with an offset and nothing else but white space. -/
def ofText? (text : String) : Option Timestamp := do
  let (year, rest) ← yearPart text.toList
  let (month, rest) ← numberUpTo 2 (← separator '-' rest)
  let (day, rest) ← numberUpTo 2 (← separator '-' rest)
  let (hour, rest) ← numberUpTo 2 (← timeMark rest)
  let (minute, rest) ← numberUpTo 2 (← separator ':' rest)
  let (second, rest) ← numberUpTo 2 (← separator ':' rest)
  let (nanosecond, rest) ← fractionPart rest
  let (offset, rest) ← offsetPart (trimStart rest)
  let there : CivilTime := { year, month, day, hour, minute, second, nanosecond }
  let time := there.back offset
  if h : time.isValid = true then
    if there.isValid && rest.all isBlank then some ⟨time, h⟩ else none
  else none

end Timestamp

end ChatFlow
