/-!
Binary floating-point numbers of 64 bits, as exact values. Rounding takes a quotient of natural
numbers to the nearest such number, and of two that are equally near to the one with the even
significand.
-/

namespace RadixForest

/-- A finite number is `significand * 2 ^ exponent`. The significand has 53 bits, or fewer with
the least exponent. -/
inductive Binary64
  | nan
  | infinite (negative : Bool)
  | finite (negative : Bool) (significand : Nat) (exponent : Int)
deriving DecidableEq, Repr

namespace Binary64

def leastExponent : Int := -1074

def greatestExponent : Int := 971

def leadingBit : Nat := Nat.pow 2 52

def zero (negative : Bool) : Binary64 := .finite negative 0 leastExponent

def divideToEven (numerator denominator : Nat) : Nat :=
  let quotient := numerator / denominator
  let twice := 2 * (numerator % denominator)
  if twice < denominator then quotient
  else if denominator < twice then quotient + 1
  else quotient + quotient % 2

def scaled (numerator denominator : Nat) (exponent : Int) : Nat × Nat :=
  (numerator * Nat.pow 2 (-exponent).toNat, denominator * Nat.pow 2 exponent.toNat)

def exponentOf (numerator denominator : Nat) : Int :=
  let guess : Int := (numerator.log2 : Int) - denominator.log2 - 52
  let (above, below) := scaled numerator denominator guess
  max leastExponent (if above / below < leadingBit then guess - 1 else guess)

def ofRatio (negative : Bool) (numerator denominator : Nat) : Binary64 :=
  if numerator = 0 then zero negative
  else
    let exponent := exponentOf numerator denominator
    let (above, below) := scaled numerator denominator exponent
    let significand := divideToEven above below
    let (significand, exponent) :=
      if significand = 2 * leadingBit then (leadingBit, exponent + 1) else (significand, exponent)
    if greatestExponent < exponent then .infinite negative
    else .finite negative significand exponent

/-- The number nearest to `digits * 10 ^ exponent`. Exponents far outside the range of the
format are settled without computing the power. -/
def ofDecimal (negative : Bool) (digits : Nat) (exponent : Int) : Binary64 :=
  let size : Int := (Nat.toDigits 10 digits).length + exponent
  if digits = 0 || size < -330 then zero negative
  else if 310 < size then .infinite negative
  else ofRatio negative (digits * Nat.pow 10 exponent.toNat) (Nat.pow 10 (-exponent).toNat)

def isFinite : Binary64 → Bool
  | .finite .. => true
  | _ => false

def isZero : Binary64 → Bool
  | .finite _ significand _ => significand == 0
  | _ => false

def ratio (significand : Nat) (exponent : Int) : Nat × Nat :=
  (significand * Nat.pow 2 exponent.toNat, Nat.pow 2 (-exponent).toNat)

/-- The nearest integer, a half away from zero, brought into the range from zero to `most`. Not a
number counts as zero. -/
def clampedRound (most : Nat) : Binary64 → Nat
  | .nan => 0
  | .infinite negative => if negative then 0 else most
  | .finite negative significand exponent =>
    let (numerator, denominator) := ratio significand exponent
    if negative then 0 else min most ((2 * numerator + denominator) / (2 * denominator))

end Binary64

end RadixForest
