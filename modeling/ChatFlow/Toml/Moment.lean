import ChatFlow.Settings.Setting
import ChatFlow.Stamp.Timestamp
import ChatFlow.Toml.Quoted

/-!
# Dates and times of TOML

A moment is a date, a time, or both with an offset or without one.  It is kept
as text in one form: with a capital letter before the time, a fraction of at
most nine digits without final zeros, and an offset with a sign.

Among values a moment is a table under a reserved key, and any table that
starts with this key stands for a moment.
-/

namespace ChatFlow.Toml.Moment

/-- How far the hours of a moment and the parts of its offset go. -/
structure Bounds where
  hour : Nat
  offsetHour : Nat
  offsetMinute : Nat

/-- The bounds of moments that stand for themselves. -/
def Bounds.bare : Bounds :=
  ⟨23, 23, 59⟩

/-- The bounds of moments given as text. -/
def Bounds.quoted : Bounds :=
  ⟨24, 99, 99⟩

/-! ## Parts -/

/-- Reads a fixed number of digits whose value is within bounds. -/
def readPart (length least greatest : Nat) : Scan (List Char) := fun text =>
  let digits := text.take length
  let value := Text.valueOfDigits digits
  if digits.length = length && digits.all Char.isDigit && least ≤ value &&
      value ≤ greatest then
    some (digits, text.drop length)
  else none

/-- Reads one character. -/
def readMark (mark : Char) : Scan Unit
  | [] => none
  | c :: rest => if c = mark then some ((), rest) else none

def readDate : Scan (List Char) := fun text => do
  let (year, text) ← readPart 4 0 9999 text
  let (_, text) ← readMark '-' text
  let (month, text) ← readPart 2 1 12 text
  let (_, text) ← readMark '-' text
  let days := CivilTime.daysInMonth (Text.valueOfDigits year) (Text.valueOfDigits month)
  let (day, rest) ← readPart 2 1 days text
  some (year ++ '-' :: month ++ '-' :: day, rest)

/-- A fraction of a second as it is kept, after its point. -/
def keptFraction (digits : List Char) : List Char :=
  let kept := ((digits.take 9).reverse.dropWhile (· = '0')).reverse
  if kept.isEmpty then [] else '.' :: kept

def readClock (bounds : Bounds) : Scan (List Char) := fun text => do
  let (hour, text) ← readPart 2 0 bounds.hour text
  let (_, text) ← readMark ':' text
  let (minute, text) ← readPart 2 0 59 text
  let (_, text) ← readMark ':' text
  let (second, text) ← readPart 2 0 60 text
  let clock := hour ++ ':' :: minute ++ ':' :: second
  match text with
  | '.' :: afterPoint =>
      let (digits, rest) := Text.spanDigits afterPoint
      if digits.isEmpty then none else some (clock ++ keptFraction digits, rest)
  | _ => some (clock, text)

/-- The minutes of a day, which no offset exceeds. -/
def minutesInDay : Nat := 1440

/-- An offset as it is kept. -/
def offsetText (below : Bool) (minutes : Nat) : List Char :=
  let sign := if below && minutes ≠ 0 then '-' else '+'
  let part (value : Nat) := Text.padLeft 2 (Text.decimal value)
  sign :: part (minutes / 60) ++ ':' :: part (minutes % 60)

/-- Reads the digits of an offset after its sign. -/
def readOffset (bounds : Bounds) (below : Bool) : Scan (List Char) := fun text => do
  let (hour, text) ← readPart 2 0 bounds.offsetHour text
  let (_, text) ← readMark ':' text
  let (minute, rest) ← readPart 2 0 bounds.offsetMinute text
  let minutes := Text.valueOfDigits hour * 60 + Text.valueOfDigits minute
  if minutes ≤ minutesInDay then some (offsetText below minutes, rest) else none

/-- Reads an offset from coordinated universal time, if there is one. -/
def readZone (bounds : Bounds) : Scan (List Char)
  | 'Z' :: rest | 'z' :: rest => some (['Z'], rest)
  | '+' :: rest => readOffset bounds false rest
  | '-' :: rest => readOffset bounds true rest
  | text => some ([], text)

/-- Reads the time that may follow a date, with the mark between them. -/
def readDayTime (bounds : Bounds) : Scan (List Char)
  | [] => none
  | mark :: text =>
      if mark = 'T' || mark = 't' || mark = ' ' then do
        let (clock, text) ← readClock bounds text
        let (zone, rest) ← readZone bounds text
        some ('T' :: clock ++ zone, rest)
      else none

/-! ## Moments -/

/-- Reads a date, a time, or both. -/
def read (bounds : Bounds) : Scan (List Char) := fun text =>
  match readDate text with
  | some (date, afterDate) =>
      let (time, rest) := (readDayTime bounds afterDate).getD ([], afterDate)
      some (date ++ time, rest)
  | none => readClock bounds text

/-- The moment that a text gives, if there is nothing else in it. -/
def ofText? (text : String) : Option String :=
  match read .quoted text.toList with
  | some (shown, []) => some (String.ofList shown)
  | _ => none

/-! ## Among values -/

/-- The reserved key. -/
def key : String := "$__toml_private_datetime"

/-- A moment among values. -/
def table (shown : List Char) : Setting :=
  .table [(key, .text (String.ofList shown))]

/-- What stands under the reserved key, if entries start with it. -/
def underKey? : List (String × Setting) → Option Setting
  | (name, value) :: _ => if name = key then some value else none
  | [] => none

/-- The text of the moment that stands under the reserved key. -/
def ofValue? : Setting → Option Setting
  | .text given => (ofText? given).map .text
  | _ => none

mutual

/-- A value with the text of every moment in its place; a table that should
stand for a moment has to. -/
def resolve : Setting → Option Setting
  | .table entries =>
      match underKey? entries with
      | some value => ofValue? value
      | none => (resolveEntries entries).map .table
  | .array items => (resolveItems items).map .array
  | value => some value

def resolveEntries : List (String × Setting) → Option (List (String × Setting))
  | [] => some []
  | (name, value) :: rest => do
      let value ← resolve value
      let rest ← resolveEntries rest
      some ((name, value) :: rest)

def resolveItems : List Setting → Option (List Setting)
  | [] => some []
  | item :: rest => do
      let item ← resolve item
      let rest ← resolveItems rest
      some (item :: rest)

end

example : ofText? "1979-05-27 07:32:00.50+01:75" = some "1979-05-27T07:32:00.5+02:15" := by
  decide +kernel
example : ofText? "24:00:00" = some "24:00:00" := by decide +kernel
example : ofText? "24:00:00Z" = none := by decide +kernel

end ChatFlow.Toml.Moment
