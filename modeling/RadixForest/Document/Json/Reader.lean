import RadixForest.Document.Json.Numbers

/-!
JSON documents. Lists and tables may be nested up to a fixed depth, and of several entries with
one name the last counts.
-/

namespace RadixForest.Document.Json

def isBlank (c : Char) : Bool := c == ' ' || c == '\n' || c == '\t' || c == '\r'

def skipBlank (text : List Char) : List Char := text.dropWhile isBlank

def escaped? : Char → Option Char
  | '"' => some '"'
  | '\\' => some '\\'
  | '/' => some '/'
  | 'b' => some '\x08'
  | 'f' => some '\x0c'
  | 'n' => some '\n'
  | 'r' => some '\r'
  | 't' => some '\t'
  | _ => none

def isHighSurrogate (n : Nat) : Bool := 0xD800 ≤ n && n < 0xDC00

def isLowSurrogate (n : Nat) : Bool := 0xDC00 ≤ n && n < 0xE000

def pairOf? (high low : Nat) : Option Char :=
  if isLowSurrogate low then charOf? (0x10000 + (high - 0xD800) * 0x400 + (low - 0xDC00)) else none

/-- A string from behind its opening quote. Surrogates are read in pairs only. -/
def string? : List Char → Read (List Char)
  | '"' :: rest => some ([], rest)
  | '\\' :: 'u' :: a :: b :: c :: d :: rest =>
    match ofHex? [a, b, c, d] with
    | none => none
    | some high =>
      if isHighSurrogate high then
        match rest with
        | '\\' :: 'u' :: e :: f :: g :: h :: rest =>
          consEscaped ((ofHex? [e, f, g, h]).bind (pairOf? high)) (string? rest)
        | _ => none
      else consEscaped (charOf? high) (string? rest)
  | '\\' :: c :: rest => consEscaped (escaped? c) (string? rest)
  | c :: rest => if 0x20 ≤ c.toNat then consRead c (string? rest) else none
  | [] => none

def skipWord? : List Char → List Char → Option (List Char)
  | [], text => some text
  | c :: word, d :: text => if c = d then skipWord? word text else none
  | _ :: _, [] => none

def word? (word : String) (value : Value) (text : List Char) : Read Value :=
  (skipWord? word.toList text).map fun rest => (value, rest)

def depthLimit : Nat := 128

mutual

/-- A value. `room` is how many more levels of lists and tables may follow. -/
def value? : Nat → Nat → List Char → Option (Value × List Char)
  | 0, _, _ => none
  | _, _, [] => none
  | fuel + 1, room, c :: rest =>
    if c = 'n' then word? "ull" .null rest
    else if c = 't' then word? "rue" (.bool true) rest
    else if c = 'f' then word? "alse" (.bool false) rest
    else if c = '"' then
      (string? rest).map fun (text, rest) => (.text (String.ofList text), rest)
    else if c = '[' then
      if room ≤ 1 then none
      else match skipBlank rest with
        | ']' :: rest => some (.list [], rest)
        | rest => (items? fuel (room - 1) rest).map fun (items, rest) => (.list items, rest)
    else if c = '\x7b' then
      if room ≤ 1 then none
      else match skipBlank rest with
        | '\x7d' :: rest => some (.table [], rest)
        | rest =>
          (entries? fuel (room - 1) [] rest).map fun (entries, rest) => (.table entries, rest)
    else number? (c :: rest)

def items? : Nat → Nat → List Char → Option (List Value × List Char)
  | 0, _, _ => none
  | fuel + 1, room, text => do
    let (item, rest) ← value? fuel room text
    match skipBlank rest with
    | ',' :: rest =>
      let (items, rest) ← items? fuel room (skipBlank rest)
      some (item :: items, rest)
    | ']' :: rest => some ([item], rest)
    | _ => none

def entries? : Nat → Nat → Table → List Char → Option (Table × List Char)
  | 0, _, _, _ => none
  | fuel + 1, room, entries, text =>
    match text with
    | '"' :: rest => do
      let (name, rest) ← string? rest
      match skipBlank rest with
      | ':' :: rest =>
        let (value, rest) ← value? fuel room (skipBlank rest)
        let entries := Table.set entries (String.ofList name) value
        match skipBlank rest with
        | ',' :: rest => entries? fuel room entries (skipBlank rest)
        | '\x7d' :: rest => some (entries, rest)
        | _ => none
      | _ => none
    | _ => none

end

def read? (text : List Char) : Option Value :=
  match value? (text.length + 1) depthLimit (skipBlank text) with
  | some (value, rest) => if (skipBlank rest).isEmpty then some value else none
  | none => none

end RadixForest.Document.Json
