/-!
What the readers of the document formats share: a reader takes what it understands off the front
of a text and hands on the rest.
-/

namespace RadixForest.Document

/-- A value read, and the text behind it. `none` is a refusal. -/
abbrev Read (α : Type) := Option (α × List Char)

def hexValue? (c : Char) : Option Nat :=
  if '0' ≤ c ∧ c ≤ '9' then some (c.toNat - '0'.toNat)
  else if 'a' ≤ c ∧ c ≤ 'f' then some (c.toNat - 'a'.toNat + 10)
  else if 'A' ≤ c ∧ c ≤ 'F' then some (c.toNat - 'A'.toNat + 10)
  else none

def ofHex? (digits : List Char) : Option Nat :=
  digits.foldlM (fun value c => (hexValue? c).map (16 * value + ·)) 0

def charOf? (point : Nat) : Option Char :=
  if point.isValidChar then some (Char.ofNat point) else none

def codeLength? : Char → Option Nat
  | 'x' => some 2
  | 'u' => some 4
  | 'U' => some 8
  | _ => none

def consEscaped (c : Option Char) (rest : Read (List Char)) : Read (List Char) :=
  match c, rest with
  | some c, some (later, rest) => some (c :: later, rest)
  | _, _ => none

def consRead (c : Char) (rest : Read (List Char)) : Read (List Char) :=
  rest.map fun (later, rest) => (c :: later, rest)

def spanOf (kind : Char → Bool) (text : List Char) : List Char × List Char :=
  (text.takeWhile kind, text.dropWhile kind)

def foldLineEnds : List Char → List Char
  | '\r' :: '\n' :: rest => '\n' :: foldLineEnds rest
  | c :: rest => c :: foldLineEnds rest
  | [] => []

end RadixForest.Document
