import RadixForest.Document.Toml.Numbers

/-!
Dates and times in TOML. A document keeps them as text in one spelling: a `T` between date and
time, fractions of a second without zeros at their end, and offsets from `+00:00` or `Z`.
-/

namespace RadixForest.Document.Toml

def twoDigits? : List Char → Read Nat
  | a :: b :: rest =>
    if a.isDigit && b.isDigit then some (Number.ofDigits [a, b], rest) else none
  | _ => none

def padded (n : Nat) : List Char := if n < 10 then '0' :: Nat.toDigits 10 n else Nat.toDigits 10 n

def colon? : List Char → Option (List Char)
  | ':' :: rest => some rest
  | _ => none

def hyphen? : List Char → Option (List Char)
  | '-' :: rest => some rest
  | _ => none

def date? (text : List Char) : Option (List Char × List Char) := do
  let (century, rest) ← twoDigits? text
  let (year, rest) ← twoDigits? rest
  let (month, rest) ← twoDigits? (← hyphen? rest)
  let (day, rest) ← twoDigits? (← hyphen? rest)
  if 1 ≤ month ∧ month ≤ 12 ∧ 1 ≤ day ∧ day ≤ 31 then
    some (padded century ++ padded year ++ '-' :: padded month ++ '-' :: padded day, rest)
  else none

def secondFraction? : List Char → Read (List Char)
  | '.' :: rest =>
    match spanOf Char.isDigit rest with
    | ([], _) => none
    | (digits, rest) =>
      match ((digits.take 9).reverse.dropWhile (· == '0')).reverse with
      | [] => some ([], rest)
      | digits => some ('.' :: digits, rest)
  | rest => some ([], rest)

def time? (text : List Char) : Option (List Char × List Char) := do
  let (hour, rest) ← twoDigits? text
  let (minute, rest) ← twoDigits? (← colon? rest)
  let (second, rest) ← twoDigits? (← colon? rest)
  let (fraction, rest) ← secondFraction? rest
  if hour ≤ 24 ∧ minute ≤ 59 ∧ second ≤ 59 then
    some (padded hour ++ ':' :: padded minute ++ ':' :: padded second ++ fraction, rest)
  else none

def offset? : List Char → Option (List Char)
  | [] => some []
  | ['Z'] | ['z'] => some ['Z']
  | sign :: rest => do
    let (hours, rest) ← twoDigits? rest
    let (minutes, rest) ← twoDigits? (← colon? rest)
    if rest.isEmpty && (sign == '+' || sign == '-') then
      some ((if sign = '-' && hours != 0 then '-' else '+') ::
        padded hours ++ ':' :: padded minutes)
    else none

/-- A date, a time, or both with or without an offset, in the one spelling. -/
def dateTime? (text : List Char) : Option (List Char) :=
  if text[2]? = some ':' then
    match time? text with
    | some (time, []) => some time
    | _ => none
  else
    match date? text with
    | none => none
    | some (date, []) => some date
    | some (date, c :: rest) =>
      if c = 'T' || c = 't' || c = ' ' then do
        let (time, rest) ← time? rest
        some (date ++ 'T' :: time ++ (← offset? rest))
      else none

def looksLikeDate (word : List Char) : Bool :=
  let holds (a b : Char) := (word.zip word.tail).contains (a, b)
  word.contains 'T' || word.contains 't' ||
    (word.tail.contains '-' && !holds 'e' '-' && !holds 'E' '-')

def skipWord? (text : List Char) : Option (List Char) :=
  match spanOf isWordChar text with
  | ([], _) => none
  | (_, rest) => some rest

def skipMarked? (mark : Char) : List Char → Option (List Char)
  | [] => some []
  | c :: rest => if c = mark then skipWord? rest else some (c :: rest)

def skipSpacedHour : List Char → List Char
  | ' ' :: c :: rest => if isWordChar c then rest.dropWhile isWordChar else ' ' :: c :: rest
  | text => text

def skipClock? (text : List Char) : Option (List Char) := do
  let rest ← skipWord? (← colon? (← skipWord? text))
  skipMarked? ':' (← skipMarked? '+' (← skipMarked? '.' rest))

def skipDate? (text : List Char) : Option (List Char) :=
  match skipSpacedHour text with
  | ':' :: rest => skipClock? rest
  | rest => some rest

/-- What is written of a date that starts with `word` and goes on in `text`. Whether it is one is
seen when its value is needed. -/
def dateText? (word text : List Char) : Read (List Char) :=
  let rest := if looksLikeDate word then skipDate? text
    else (colon? text).bind fun text => skipClock? (skipSpacedHour text)
  rest.map fun rest => (word ++ text.take (text.length - rest.length), rest)

end RadixForest.Document.Toml
