import RadixForest.Number.Binary64
import RadixForest.Text.Lowercase

/-!
Numbers read from text in full: integers of 64 bits with and without sign, and decimal fractions
with an optional exponent.
-/

namespace RadixForest.Number

def digitValue (c : Char) : Nat := c.toNat - '0'.toNat

def ofDigits (digits : List Char) : Nat :=
  digits.foldl (fun value c => 10 * value + digitValue c) 0

def natural? (text : List Char) : Option Nat :=
  if !text.isEmpty && text.all Char.isDigit then some (ofDigits text) else none

def splitSign : List Char → Bool × List Char
  | '-' :: rest => (true, rest)
  | '+' :: rest => (false, rest)
  | text => (false, text)

def signed (negative : Bool) (size : Nat) : Int := if negative then -(size : Int) else size

def wordValues : Nat := Nat.pow 2 64

def inInt64 (n : Int) : Bool := -(wordValues : Int) ≤ 2 * n && 2 * n < (wordValues : Int)

def int64? (text : List Char) : Option Int :=
  let (negative, digits) := splitSign text
  match natural? digits with
  | none => none
  | some size => if inInt64 (signed negative size) then some (signed negative size) else none

def uint64? (text : List Char) : Option Nat :=
  let digits := match text with
    | '+' :: digits => digits
    | digits => digits
  match natural? digits with
  | none => none
  | some size => if size < wordValues then some size else none

structure Fraction where
  whole : List Char
  after : List Char
  exponent : Int

def Fraction.value (fraction : Fraction) (negative : Bool) : Binary64 :=
  Binary64.ofDecimal negative (ofDigits (fraction.whole ++ fraction.after))
    (fraction.exponent - fraction.after.length)

def exponent? : List Char → Option Int
  | [] => some 0
  | c :: rest =>
    if c = 'e' || c = 'E' then
      let (negative, digits) := splitSign rest
      (natural? digits).map (signed negative)
    else none

def fraction? (text : List Char) : Option Fraction :=
  let whole := text.takeWhile Char.isDigit
  let (after, rest) := match text.dropWhile Char.isDigit with
    | '.' :: rest => (rest.takeWhile Char.isDigit, rest.dropWhile Char.isDigit)
    | rest => ([], rest)
  if whole.isEmpty && after.isEmpty then none
  else (exponent? rest).map (⟨whole, after, ·⟩)

def asciiLower (text : List Char) : List Char := text.map Char.toLower

/-- A decimal number, or one of the names of infinity and of not a number in any case. -/
def binary64? (text : List Char) : Option Binary64 :=
  let (negative, size) := splitSign text
  if asciiLower size = "inf".toList || asciiLower size = "infinity".toList then
    some (.infinite negative)
  else if asciiLower size = "nan".toList then some .nan
  else (fraction? size).map (·.value negative)

end RadixForest.Number
