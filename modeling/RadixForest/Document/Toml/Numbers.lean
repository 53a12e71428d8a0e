import RadixForest.Document.Scanning
import RadixForest.Number.Reading

/-!
Numbers in TOML: integers in four bases and fractions, with underscores between their digits.
-/

namespace RadixForest.Document.Toml

def isWordChar (c : Char) : Bool := c.isAlphanum || c == '-' || c == '_'

inductive Number
  | int (n : Int)
  | float (x : Binary64)
deriving DecidableEq, Repr

inductive DigitState
  | start
  | zeroFirst
  | digit
  | gap (zeroFirst : Bool)
deriving DecidableEq

def isDigitIn (base : Nat) (c : Char) : Bool := (hexValue? c).any (· < base)

/-- A run of digits with single underscores between them; the underscores are left out. Where
`zeros` is off, a run of several digits must not start with a zero. -/
def digitsFrom (base : Nat) (zeros : Bool) : DigitState → List Char → Read (List Char)
  | state, [] =>
    match state with
    | .start | .gap _ => none
    | _ => some ([], [])
  | state, c :: rest =>
    if isDigitIn base c then
      match state with
      | .start => consRead c (digitsFrom base zeros (if c = '0' then .zeroFirst else .digit) rest)
      | .digit | .gap false => consRead c (digitsFrom base zeros .digit rest)
      | .zeroFirst | .gap true =>
        if zeros then consRead c (digitsFrom base zeros .digit rest) else none
    else
      match c, state with
      | '_', .digit => digitsFrom base zeros (.gap false) rest
      | '_', .zeroFirst => digitsFrom base zeros (.gap true) rest
      | _, .digit | _, .zeroFirst => some ([], c :: rest)
      | _, _ => none

def digits? (base : Nat) (zeros : Bool) (text : List Char) : Read (List Char) :=
  digitsFrom base zeros .start text

def signedDigits? (zeros : Bool) (text : List Char) : Option ((Bool × List Char) × List Char) :=
  let (negative, unsigned) := Number.splitSign text
  (digits? 10 zeros unsigned).map fun (digits, rest) => ((negative, digits), rest)

def ofDigitsIn (base : Nat) (digits : List Char) : Nat :=
  digits.foldl (fun n c => base * n + (hexValue? c).getD 0) 0

def integerIn? (base : Nat) (word : List Char) : Option Number :=
  match digits? base true word with
  | some (digits, []) =>
    let n : Int := ofDigitsIn base digits
    if Number.inInt64 n then some (.int n) else none
  | _ => none

def integer? (word : List Char) : Option Number :=
  match signedDigits? false word with
  | some ((negative, digits), []) =>
    let n := Number.signed negative (Number.ofDigits digits)
    if Number.inInt64 n then some (.int n) else none
  | _ => none

/-- The exponent of a fraction, behind its letter. A plus sign ends the word before it, so the
digits may be the next word. -/
def exponent? (word rest : List Char) : Read Int :=
  match word with
  | [] =>
    let rest := match rest with
      | '+' :: rest => rest
      | rest => rest
    let (word, rest) := spanOf isWordChar rest
    match digits? 10 true word with
    | some (digits, []) => some (Number.ofDigits digits, rest)
    | _ => none
  | word =>
    match signedDigits? true word with
    | some ((negative, digits), []) => some (Number.signed negative (Number.ofDigits digits), rest)
    | _ => none

def fraction? (negative : Bool) (whole after suffix rest : List Char) : Read Number :=
  let exponent : Read Int := match suffix with
    | [] => some (0, rest)
    | c :: suffix => if c = 'e' || c = 'E' then exponent? suffix rest else none
  match exponent with
  | none => none
  | some (exponent, rest) =>
    let x := Number.Fraction.value ⟨whole, after, exponent⟩ negative
    if x.isFinite then some (.float x, rest) else none

def baseOf? : Char → Option Nat
  | 'x' => some 16
  | 'o' => some 8
  | 'b' => some 2
  | _ => none

def number? (word rest : List Char) : Read Number :=
  let decimal : Read Number :=
    if word.contains 'e' || word.contains 'E' then
      match signedDigits? false word with
      | some ((negative, whole), suffix) => fraction? negative whole [] suffix rest
      | none => none
    else match rest with
      | '.' :: rest =>
        let (behind, rest) := spanOf isWordChar rest
        match signedDigits? false word, digits? 10 true behind with
        | some ((negative, whole), []), some (after, suffix) =>
          fraction? negative whole after suffix rest
        | _, _ => none
      | rest =>
        if word = "inf".toList then some (.float (.infinite false), rest)
        else if word = "-inf".toList then some (.float (.infinite true), rest)
        else if word = "nan".toList || word = "-nan".toList then some (.float .nan, rest)
        else (integer? word).map (·, rest)
  match word with
  | '0' :: c :: digits =>
    match baseOf? c with
    | some base => (integerIn? base digits).map (·, rest)
    | none => decimal
  | _ => decimal

end RadixForest.Document.Toml
