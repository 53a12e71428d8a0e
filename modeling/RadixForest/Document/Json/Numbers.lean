import RadixForest.Document.Scanning
import RadixForest.Document.Value
import RadixForest.Number.Reading

/-!
Numbers in JSON. Integers in the signed range of 64 bits stay integers; every other number is a
fraction. A fraction is computed from its leading digits, as many as fit into 64 bits, by one
multiplication or division with a power of ten, so it may be off in its last place.
-/

namespace RadixForest

namespace Binary64

def times : Binary64 → Binary64 → Binary64
  | .finite _ m e, .finite _ n f =>
    let (a, b) := ratio m e
    let (c, d) := ratio n f
    ofRatio false (a * c) (b * d)
  | x, _ => x

def dividedBy : Binary64 → Binary64 → Binary64
  | .finite _ m e, .finite _ n f =>
    let (a, b) := ratio m e
    let (c, d) := ratio n f
    ofRatio false (a * d) (b * c)
  | x, _ => x

def negate : Binary64 → Binary64
  | .nan => .nan
  | .infinite negative => .infinite (!negative)
  | .finite negative significand exponent => .finite (!negative) significand exponent

def greatestPower : Nat := 308

def powerOfTen (n : Nat) : Binary64 := ofDecimal false 1 n

def shiftDown (x : Binary64) (places : Nat) : Binary64 :=
  if places ≤ greatestPower then x.dividedBy (powerOfTen places)
  else if x.isZero then x
  else shiftDown (x.dividedBy (powerOfTen greatestPower)) (places - greatestPower)
termination_by places
decreasing_by
  rename_i many _
  simp only [greatestPower] at many ⊢
  omega

def shiftPlaces? (x : Binary64) (places : Int) : Option Binary64 :=
  if places < 0 then some (x.shiftDown places.natAbs)
  else if places ≤ greatestPower then
    let product := x.times (powerOfTen places.toNat)
    if product.isFinite then some product else none
  else if x.isZero then some x
  else none

end Binary64

namespace Document.Json

/-- Takes digits into a number below 2^64. The digits from the first that does not fit are
handed on. -/
def leading (significand : Nat) : List Char → Nat × List Char
  | [] => (significand, [])
  | c :: rest =>
    let next := 10 * significand + Number.digitValue c
    if next < Number.wordValues then leading next rest else (significand, c :: rest)

def ofParts? (negative : Bool) (significand : Nat) (exponent : Int) : Option Value :=
  ((Binary64.ofRatio false significand 1).shiftPlaces? exponent).map fun x =>
    .float (if negative then x.negate else x)

def exponent? (text : List Char) : Read Int :=
  let (negative, digits) := Number.splitSign text
  match spanOf Char.isDigit digits with
  | ([], _) => none
  | (digits, rest) => some (Number.signed negative (Number.ofDigits digits), rest)

/-- A fraction with the given digits before and after the point. A digit that does not fit counts
as a place if it stands before the point. -/
def fraction? (negative : Bool) (whole after rest : List Char) : Read Value :=
  let (significand, dropped) := leading 0 whole
  let (significand, unused) := leading significand after
  let places : Int := dropped.length - (after.length - unused.length : Nat)
  let exponent := match rest with
    | c :: rest => if c = 'e' || c = 'E' then exponent? rest else some (0, c :: rest)
    | [] => some (0, [])
  match exponent with
  | some (exponent, rest) => (ofParts? negative significand (places + exponent)).map (·, rest)
  | none => none

def integer? (negative : Bool) (whole : List Char) : Option Int :=
  let n := Number.signed negative (Number.ofDigits whole)
  if Number.inInt64 n && !(negative && n == 0) then some n else none

def unsigned? (negative : Bool) (text : List Char) : Read Value :=
  match spanOf Char.isDigit text with
  | ([], _) | ('0' :: _ :: _, _) => none
  | (whole, '.' :: rest) =>
    match spanOf Char.isDigit rest with
    | ([], _) => none
    | (after, rest) => fraction? negative whole after rest
  | (whole, rest) =>
    if rest.head? = some 'e' || rest.head? = some 'E' then fraction? negative whole [] rest
    else match integer? negative whole with
      | some n => some (.int n, rest)
      | none => fraction? negative whole [] rest

def number? : List Char → Read Value
  | '-' :: rest => unsigned? true rest
  | text => unsigned? false text

end Document.Json

end RadixForest
