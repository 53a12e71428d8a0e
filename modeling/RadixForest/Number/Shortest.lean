import RadixForest.Number.Binary64

/-!
Decimal text of a binary number: the fewest digits that read back as the same number, and of
those the nearest, the greater of two that are equally near. It has no exponent.
-/

namespace RadixForest.Binary64

def decimalPlace (numerator denominator : Nat) : Int :=
  if denominator ≤ numerator then (Nat.toDigits 10 (numerator / denominator)).length - 1
  else -(Nat.toDigits 10 (denominator / numerator)).length

structure Comparison where
  decimal : Nat
  binary : Nat
  unit : Nat

def compareAt (significand : Nat) (exponent : Int) (digits : Nat) (place : Int) : Comparison :=
  let unit := Nat.pow 10 (-place).toNat * Nat.pow 2 (exponent - 2).toNat
  { decimal := digits * Nat.pow 10 place.toNat * Nat.pow 2 (-(exponent - 2)).toNat
    binary := 4 * significand * unit
    unit }

/-- The decimal lies among the numbers that round to the binary number. The boundaries belong to
an even significand; below a power of two the nearest neighbour is half as far. -/
def readsBack (significand : Nat) (exponent : Int) (digits : Nat) (place : Int) : Bool :=
  let c := compareAt significand exponent digits place
  let down := if significand = leadingBit && leastExponent < exponent then c.unit else 2 * c.unit
  let up := 2 * c.unit
  if significand % 2 = 0 then c.binary - down ≤ c.decimal && c.decimal ≤ c.binary + up
  else c.binary - down < c.decimal && c.decimal < c.binary + up

def distance (significand : Nat) (exponent : Int) (digits : Nat) (place : Int) : Nat :=
  let c := compareAt significand exponent digits place
  max c.decimal c.binary - min c.decimal c.binary

def shortestFrom (significand : Nat) (exponent : Int) : Nat → Int → Nat × Int
  | 0, place => (0, place)
  | fuel + 1, place =>
    let (numerator, denominator) := ratio significand exponent
    let below :=
      (numerator * Nat.pow 10 (-place).toNat) / (denominator * Nat.pow 10 place.toNat)
    match readsBack significand exponent below place,
        readsBack significand exponent (below + 1) place with
    | true, true =>
      if distance significand exponent below place < distance significand exponent (below + 1) place
      then (below, place) else (below + 1, place)
    | true, false => (below, place)
    | false, true => (below + 1, place)
    | false, false => shortestFrom significand exponent fuel (place - 1)

def stripZeros (digits : Nat) (place : Int) : Nat × Int :=
  if digits % 10 = 0 && 0 < digits then stripZeros (digits / 10) (place + 1) else (digits, place)
termination_by digits
decreasing_by
  rename_i nonzero
  simp only [Bool.and_eq_true, decide_eq_true_eq] at nonzero
  omega

/-- The shortest decimal `digits * 10 ^ place` of a positive number. Seventeen digits always
suffice. -/
def shortest (significand : Nat) (exponent : Int) : Nat × Int :=
  let (numerator, denominator) := ratio significand exponent
  let (digits, place) :=
    shortestFrom significand exponent 18 (decimalPlace numerator denominator)
  stripZeros digits place

def positional (digits : Nat) (place : Int) : List Char :=
  let written := Nat.toDigits 10 digits
  if 0 ≤ place then written ++ List.replicate place.toNat '0'
  else
    let after := (-place).toNat
    let padded := List.replicate (after + 1 - written.length) '0' ++ written
    padded.take (padded.length - after) ++ '.' :: padded.drop (padded.length - after)

def text : Binary64 → String
  | .nan => "NaN"
  | .infinite negative => if negative then "-inf" else "inf"
  | .finite negative significand exponent =>
    let size := if significand = 0 then ['0']
      else
        let (digits, place) := shortest significand exponent
        positional digits place
    String.ofList (if negative then '-' :: size else size)

end RadixForest.Binary64
