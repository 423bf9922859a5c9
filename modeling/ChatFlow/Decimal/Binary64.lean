/-!
# Numbers of binary64

A finite number is a whole significand scaled by a power of two.  Words and
quotients are turned into numbers, and numbers into whole ones; all of it in
exact arithmetic.
-/

namespace ChatFlow

/-- A number of the sixty-four bit binary format. -/
inductive Binary64
  | nan
  | infinite (negative : Bool)
  /-- The significand times two to the exponent. -/
  | finite (negative : Bool) (significand : Nat) (exponent : Int)
deriving DecidableEq, Repr

namespace Binary64

/-- The exponent of the numbers that are nearest to zero. -/
def leastExponent : Int := -1074

/-- The exponent of the numbers that are farthest from zero. -/
def greatestExponent : Int := 971

/-- The bit in front of a fraction, which words do not hold. -/
def leadingBit : Nat := 0x10000000000000

/-- The number that a word stands for. -/
def ofBits (bits : UInt64) : Binary64 :=
  let word := bits.toNat
  let negative : Bool := word >>> 63 = 1
  let field : Nat := (word >>> 52) % 2048
  let fraction : Nat := word % leadingBit
  if field = 2047 then
    if fraction = 0 then .infinite negative else .nan
  else if field = 0 then .finite negative fraction leastExponent
  else .finite negative (leadingBit + fraction) (leastExponent + (field - 1))

/-- Numerator and denominator of a quotient divided by a power of two. -/
def scaleDown (numerator denominator : Nat) (exponent : Int) : Nat × Nat :=
  if exponent < 0 then (numerator <<< exponent.natAbs, denominator)
  else (numerator, denominator <<< exponent.natAbs)

/-- The whole number nearest to a quotient; halves go to the even one. -/
def roundToEven (numerator denominator : Nat) : Nat :=
  let below := numerator / denominator
  let rest := 2 * (numerator % denominator)
  if denominator < rest || (rest = denominator && below % 2 = 1) then below + 1
  else below

/-- The greatest exponent of two whose power is at most a quotient. -/
def quotientLog (numerator denominator : Nat) : Int :=
  let guess : Int := (Nat.log2 numerator : Int) - Nat.log2 denominator
  let (above, below) := scaleDown numerator denominator guess
  if below ≤ above then guess else guess - 1

/-- The number nearest to a quotient; a quotient halfway between two numbers
goes to the one with the even significand. -/
def nearest (negative : Bool) (numerator denominator : Nat) : Binary64 :=
  if numerator = 0 then .finite negative 0 leastExponent
  else
    let exponent := max (quotientLog numerator denominator - 52) leastExponent
    let (above, below) := scaleDown numerator denominator exponent
    let rounded := roundToEven above below
    let (significand, exponent) :=
      if rounded = 2 * leadingBit then (leadingBit, exponent + 1) else (rounded, exponent)
    if greatestExponent < exponent then .infinite negative
    else .finite negative significand exponent

/-- The nearest whole number, a half going away from zero. -/
def roundMagnitude (significand : Nat) (exponent : Int) : Nat :=
  if exponent < 0 then
    let unit := 1 <<< exponent.natAbs
    (2 * significand + unit) / (2 * unit)
  else significand <<< exponent.natAbs

/-- The nearest unsigned number of sixty-four bits; what is no number counts
as zero. -/
def toUnsigned : Binary64 → UInt64
  | .nan => 0
  | .infinite negative => if negative then 0 else UInt64.ofNat (UInt64.size - 1)
  | .finite negative significand exponent =>
      if negative then 0
      else UInt64.ofNat (min (roundMagnitude significand exponent) (UInt64.size - 1))

example : nearest false 1 1 = .finite false leadingBit (-52) := by decide
example : nearest true 3 2 = .finite true (leadingBit + leadingBit / 2) (-52) := by decide
example : toUnsigned (nearest false 5 2) = 3 := by decide
example : toUnsigned (nearest false 12 5) = 2 := by decide
example : toUnsigned (nearest true 5 2) = 0 := by decide

end Binary64

end ChatFlow
