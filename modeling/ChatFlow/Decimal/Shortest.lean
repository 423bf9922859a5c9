import ChatFlow.Decimal.Binary64
import ChatFlow.Text.Digits

/-!
# Shortest decimals

A number is written with the fewest digits that read back as it does.  The
decimals that read back lie between the two points halfway to its neighbours;
these points belong to them if the significand is even.  On a grid of decimals
only the two points around the number have to be tried, and of two that fit
the nearer one is taken, the greater if they are equally near.
-/

namespace ChatFlow.Decimal

/-- A positive quotient. -/
structure Ratio where
  numerator : Nat
  denominator : Nat
deriving DecidableEq, Repr

namespace Ratio

/-- A whole number times a power of two. -/
def ofScaled (significand : Nat) (exponent : Int) : Ratio :=
  if exponent < 0 then ⟨significand, 1 <<< exponent.natAbs⟩
  else ⟨significand <<< exponent.natAbs, 1⟩

/-- A whole number times a power of ten. -/
def ofDecimal (digits : Nat) (exponent : Int) : Ratio :=
  if exponent < 0 then ⟨digits, Nat.pow 10 exponent.natAbs⟩
  else ⟨digits * Nat.pow 10 exponent.natAbs, 1⟩

def lt (x y : Ratio) : Bool :=
  x.numerator * y.denominator < y.numerator * x.denominator

def le (x y : Ratio) : Bool :=
  x.numerator * y.denominator ≤ y.numerator * x.denominator

end Ratio

/-- The decimals that read back as a number: those between two bounds, which
belong to them or do not. -/
structure Span where
  lower : Ratio
  upper : Ratio
  closed : Bool

def Span.contains (span : Span) (x : Ratio) : Bool :=
  if span.closed then span.lower.le x && x.le span.upper
  else span.lower.lt x && x.lt span.upper

/-- The span of a significand and an exponent.  Below a power of two the
neighbour is only half as far away. -/
def Span.of (significand : Nat) (exponent : Int) : Span :=
  let below :=
    if significand = Binary64.leadingBit ∧ exponent ≠ Binary64.leastExponent then
      4 * significand - 1
    else 4 * significand - 2
  { lower := .ofScaled below (exponent - 2)
    upper := .ofScaled (4 * significand + 2) (exponent - 2)
    closed := significand % 2 = 0 }

/-- How many digits stand before the point, or the negated number of zeros
directly after it: the first power of ten above a positive quotient. -/
def pointAfter (x : Ratio) : Int :=
  let guess : Int :=
    ((Nat.toDigits 10 x.numerator).length : Int) - (Nat.toDigits 10 x.denominator).length
  if x.lt (.ofDecimal 1 guess) then guess else guess + 1

/-- The point of a grid of decimals that stands for a number, if one is in its
span; the grid holds the whole multiples of a power of ten. -/
def onGrid? (span : Span) (x : Ratio) (exponent : Int) : Option Nat :=
  let step := Ratio.ofDecimal 1 exponent
  let above := x.numerator * step.denominator
  let below := x.denominator * step.numerator
  let floor := above / below
  let fits (digits : Nat) := span.contains (.ofDecimal digits exponent)
  match fits floor, fits (floor + 1) with
  | true, true => some (if 2 * (above % below) < below then floor else floor + 1)
  | true, false => some floor
  | false, true => some (floor + 1)
  | false, false => none

/-- Seventeen digits are always enough. -/
def digitLimit : Nat := 17

/-- The grids to try for a number with its point at a place, from coarse to
fine.  The first one holds the power of ten above the number. -/
def grids (point : Int) : List Int :=
  (List.range (digitLimit + 1)).map fun (count : Nat) => point - count

/-- The fewest digits that stand for a positive number, and the power of ten
that they are multiplied by. -/
def shortest (significand : Nat) (exponent : Int) : Nat × Int :=
  let x := Ratio.ofScaled significand exponent
  let span := Span.of significand exponent
  let found := (grids (pointAfter x)).findSome? fun grid =>
    (onGrid? span x grid).map (·, grid)
  found.getD (0, 0)

/-- Digits times a power of ten, written without an exponent. -/
def positional (digits : List Char) (exponent : Int) : List Char :=
  if 0 ≤ exponent then digits ++ List.replicate exponent.natAbs '0'
  else
    let places := exponent.natAbs
    let padded := Text.padLeft (places + 1) digits
    padded.take (padded.length - places) ++ '.' :: padded.drop (padded.length - places)

/-- A number as text. -/
def write : Binary64 → List Char
  | .nan => "NaN".toList
  | .infinite negative => (if negative then "-inf" else "inf").toList
  | .finite negative significand exponent =>
      let sign := if negative then ['-'] else []
      if significand = 0 then sign ++ ['0']
      else
        let (digits, power) := shortest significand exponent
        sign ++ positional (Text.decimal digits) power

end ChatFlow.Decimal
