import RadixForest.Document.Toml.Tables
import RadixForest.Proofs.Document.Paths
import RadixForest.Proofs.Document.Quoting

/-!
Lines of a TOML document that are written and read back: headers, and pairs of a name and a switch,
a natural number or a text.
-/

namespace RadixForest.Document.Toml

theorem spanOf_word {kind : Char → Bool} {word rest : List Char} (all : ∀ c ∈ word, kind c)
    (stops : ∀ c ∈ rest.head?, kind c = false) : spanOf kind (word ++ rest) = (word, rest) := by
  rw [spanOf, takeWhile_word all stops, dropWhile_word all stops]

theorem isDigitIn_of_isDigit {c : Char} (digit : c.isDigit) : isDigitIn 10 c := by
  obtain ⟨low, high⟩ := Char.isDigit_iff_toNat.mp digit
  have range : '0' ≤ c ∧ c ≤ '9' := ⟨low, high⟩
  have small : c.toNat - '0'.toNat < 10 := by
    change 48 ≤ c.toNat at low
    change c.toNat ≤ 57 at high
    change c.toNat - 48 < 10
    omega
  simp only [isDigitIn, hexValue?, range, and_self, if_true, Option.any_some, small,
    decide_true]

theorem digitsFrom_digits {zeros : Bool} {digits : List Char} (all : ∀ c ∈ digits, c.isDigit) :
    digitsFrom 10 zeros .digit digits = some (digits, []) := by
  induction digits with
  | nil => rfl
  | cons c digits ih =>
      have later := ih fun c member => all c (List.mem_cons_of_mem _ member)
      have digit := isDigitIn_of_isDigit (all c List.mem_cons_self)
      unfold digitsFrom
      simp only [digit, if_true, later]
      rfl

theorem toDigits_starts {n : Nat} (positive : 0 < n) :
    ∃ first rest, Nat.toDigits 10 n = first :: rest ∧ first ≠ '0' := by
  induction n using Nat.strongRecOn with
  | ind n ih =>
      by_cases small : n < 10
      · refine ⟨n.digitChar, [], Nat.toDigits_of_lt_base small, ?_⟩
        exact fun zero => absurd (Nat.digitChar_eq_zero.mp zero) (Nat.ne_of_gt positive)
      · obtain ⟨first, rest, starts, other⟩ := ih (n / 10) (by omega) (by omega)
        refine ⟨first, rest ++ [(n % 10).digitChar], ?_, other⟩
        rw [Nat.toDigits_of_base_le (by decide) (by omega), starts, List.cons_append]

theorem isDigit_of_mem {n : Nat} : ∀ c ∈ Nat.toDigits 10 n, c.isDigit :=
  fun _ member => Nat.isDigit_of_mem_toDigits (by decide) (by decide) member

theorem digits?_toDigits (n : Nat) :
    digits? 10 false (Nat.toDigits 10 n) = some (Nat.toDigits 10 n, []) := by
  have all : ∀ c ∈ Nat.toDigits 10 n, c.isDigit := isDigit_of_mem
  rcases Nat.eq_zero_or_pos n with rfl | positive
  · rfl
  · obtain ⟨first, rest, starts, other⟩ := toDigits_starts positive
    rw [starts] at all ⊢
    have digit := isDigitIn_of_isDigit (all first List.mem_cons_self)
    have later := @digitsFrom_digits false rest fun c member =>
      all c (List.mem_cons_of_mem _ member)
    unfold digits? digitsFrom
    simp only [digit, if_true, other, if_false, later]
    rfl

theorem ofDigits_toDigits (n : Nat) : Number.ofDigits (Nat.toDigits 10 n) = n :=
  Nat.ofDigitChars_toDigits (by decide) (by decide)

theorem splitSign_digits {digits : List Char} (all : ∀ c ∈ digits, c.isDigit) :
    Number.splitSign digits = (false, digits) := by
  cases digits with
  | nil => rfl
  | cons c digits =>
      have digit := all c List.mem_cons_self
      have minus : c ≠ '-' := by
        rintro rfl
        cases digit
      have plus : c ≠ '+' := by
        rintro rfl
        cases digit
      simp [Number.splitSign, minus, plus]

theorem not_mem_toDigits {c : Char} (other : c.isDigit = false) (n : Nat) :
    c ∉ Nat.toDigits 10 n := by
  intro member
  rw [isDigit_of_mem c member] at other
  cases other

theorem toDigits_ne {c : Char} (other : c.isDigit = false) {word : List Char} (member : c ∈ word)
    (n : Nat) : Nat.toDigits 10 n ≠ word :=
  fun same => not_mem_toDigits other n (same ▸ member)

theorem integer?_toDigits {n : Nat} (fits : n < Nat.pow 2 63) :
    integer? (Nat.toDigits 10 n) = some (.int n) := by
  have signed : signedDigits? false (Nat.toDigits 10 n) =
      some ((false, Nat.toDigits 10 n), []) := by
    simp only [signedDigits?, splitSign_digits isDigit_of_mem, digits?_toDigits, Option.map_some]
  have inRange : Number.inInt64 (Number.signed false n) := by
    have bound : n < 9223372036854775808 := fits
    have whole : Number.wordValues = 18446744073709551616 := rfl
    simp only [Number.inInt64, Number.signed, whole, Bool.and_eq_true, decide_eq_true_eq]
    constructor
    · simp only [Bool.false_eq_true, if_false]
      omega
    · simp only [Bool.false_eq_true, if_false]
      omega
  simp only [integer?, signed, ofDigits_toDigits, inRange, if_true]
  rfl

theorem toDigits_ne_zero_cons (n : Nat) (c : Char) (rest : List Char) :
    Nat.toDigits 10 n ≠ '0' :: c :: rest := by
  intro same
  rcases Nat.eq_zero_or_pos n with rfl | positive
  · cases same
  · obtain ⟨first, others, starts, other⟩ := toDigits_starts positive
    rw [starts] at same
    exact other (List.cons.inj same).1

theorem number?_toDigits {n : Nat} (fits : n < Nat.pow 2 63) (rest : List Char) :
    number? (Nat.toDigits 10 n) ('\n' :: rest) = some (.int n, '\n' :: rest) := by
  have noExponent :
      ((Nat.toDigits 10 n).contains 'e' || (Nat.toDigits 10 n).contains 'E') = false := by
    simp [not_mem_toDigits (by decide : Char.isDigit 'e' = false),
      not_mem_toDigits (by decide : Char.isDigit 'E' = false)]
  have noName {word : List Char} (member : 'n' ∈ word) : Nat.toDigits 10 n ≠ word :=
    toDigits_ne (by decide) member n
  unfold number?
  simp only [noExponent, Bool.false_eq_true, if_false, noName (by decide : 'n' ∈ "inf".toList),
    noName (by decide : 'n' ∈ "-inf".toList), noName (by decide : 'n' ∈ "nan".toList),
    noName (by decide : 'n' ∈ "-nan".toList), decide_false, Bool.or_self, integer?_toDigits fits,
    Option.map_some]
  split
  · rename_i same
    exact absurd same (toDigits_ne_zero_cons n _ _)
  · rfl

theorem wordValue?_toDigits {n : Nat} (fits : n < Nat.pow 2 63) (rest : List Char) :
    wordValue? (Nat.toDigits 10 n) ('\n' :: rest) = some (.plain (.int n), '\n' :: rest) := by
  have noDate : looksLikeDate (Nat.toDigits 10 n) = false := by
    have noHyphen : '-' ∉ (Nat.toDigits 10 n).tail :=
      fun member => not_mem_toDigits (by decide) n (List.mem_of_mem_tail member)
    simp [looksLikeDate, not_mem_toDigits, noHyphen]
  have startsNumber : ((Nat.toDigits 10 n).head?.any fun c => c.isDigit || c == '-') = true := by
    cases starts : Nat.toDigits 10 n with
    | nil => exact absurd starts Nat.toDigits_ne_nil
    | cons c others =>
        have digit : c.isDigit := @isDigit_of_mem n c (by simp [starts])
        simp [digit]
  have noSwitch {word : List Char} (member : 'e' ∈ word) : Nat.toDigits 10 n ≠ word :=
    toDigits_ne (by decide) member n
  unfold wordValue?
  simp only [noSwitch (by decide : 'e' ∈ "true".toList),
    noSwitch (by decide : 'e' ∈ "false".toList), if_false, noDate, startsNumber, Bool.or_true,
    if_true, number?_toDigits fits, Option.map_some]
  rfl

theorem isWordChar_of_isDigit {c : Char} (digit : c.isDigit) : isWordChar c := by
  simp [isWordChar, Char.isAlphanum, digit]

theorem value?_toDigits {n : Nat} (fits : n < Nat.pow 2 63) (fuel : Nat) (rest : List Char) :
    value? (fuel + 1) (Nat.toDigits 10 n ++ '\n' :: rest) =
      some (.plain (.int n), '\n' :: rest) := by
  have word : spanOf isWordChar (Nat.toDigits 10 n ++ '\n' :: rest) =
      (Nat.toDigits 10 n, '\n' :: rest) :=
    spanOf_word (fun c member => isWordChar_of_isDigit (isDigit_of_mem c member)) (by simp; decide)
  have read := wordValue?_toDigits fits rest
  cases starts : Nat.toDigits 10 n with
  | nil => exact absurd starts Nat.toDigits_ne_nil
  | cons c others =>
      have digit : c.isDigit := @isDigit_of_mem n c (by simp [starts])
      have noMark : c ≠ '"' ∧ c ≠ '\x27' ∧ c ≠ '[' ∧ c ≠ '\x7b' ∧ c ≠ '+' := by
        refine ⟨?_, ?_, ?_, ?_, ?_⟩ <;> (rintro rfl; cases digit)
      rw [starts] at word read
      rw [List.cons_append] at word ⊢
      simp only [value?, noMark, decide_false, Bool.or_self, Bool.false_eq_true, if_false, word,
        read]

theorem value?_quoted (text : List Char) (fuel : Nat) (rest : List Char) :
    value? (fuel + 1) (quoted text ++ '\n' :: rest) =
      some (.plain (.text (String.ofList text)), '\n' :: rest) := by
  have read := @string?_quoted text ('\n' :: rest) (by simp)
  obtain ⟨mark, body, starts, quote⟩ := quoted_starts text
  rw [starts, List.cons_append] at read ⊢
  have isQuote : (decide (mark = '"') || decide (mark = '\x27')) = true := by simpa using quote
  simp only [value?, isQuote, if_true, read, Option.map_some]

theorem ne_of_isWordChar {c other : Char} (wordChar : isWordChar c)
    (mark : isWordChar other = false) : c ≠ other := by
  rintro rfl
  rw [wordChar] at mark
  cases mark

theorem not_space_of_isWordChar {c : Char} (wordChar : isWordChar c) : isSpace c = false := by
  simp [isSpace, ne_of_isWordChar wordChar (by decide : isWordChar ' ' = false),
    ne_of_isWordChar wordChar (by decide : isWordChar '\t' = false)]

theorem skipSpace_here {text : List Char} (solid : ∀ c ∈ text.head?, isSpace c = false) :
    skipSpace text = text := by
  cases text with
  | nil => rfl
  | cons c rest => simp [skipSpace, solid c rfl]

theorem lineEnd?_feed (rest : List Char) : lineEnd? ('\n' :: rest) = some rest := by
  simp [lineEnd?, skipSpace, isSpace]

theorem key?_word {word rest : List Char} (filled : word ≠ []) (all : ∀ c ∈ word, isWordChar c)
    (stops : ∀ c ∈ rest.head?, isWordChar c = false) (noDot : (skipSpace rest).head? ≠ some '.') :
    key? (word ++ rest).length (word ++ rest) = some ([String.ofList word], skipSpace rest) := by
  have part : keyPart? (word ++ rest) = some (String.ofList word, rest) := by
    obtain ⟨c, others, rfl⟩ := List.exists_cons_of_ne_nil filled
    simp only [keyPart?, spanOf_word all stops]
  have fuel : (word ++ rest).length = (word.length - 1 + rest.length) + 1 := by
    have filled := List.length_pos_iff.mpr filled
    simp only [List.length_append]
    omega
  rw [fuel]
  simp only [key?, part, Option.bind_eq_bind, Option.bind_some]
  split
  · rename_i starts
    simp [starts] at noDot
  · rfl

theorem head_word {name rest : List Char} (filled : name ≠ []) (all : ∀ c ∈ name, isWordChar c) :
    ∃ c behind, name ++ rest = c :: behind ∧ isWordChar c := by
  obtain ⟨c, others, rfl⟩ := List.exists_cons_of_ne_nil filled
  exact ⟨c, others ++ rest, rfl, all c List.mem_cons_self⟩

theorem line?_header {name : List Char} (filled : name ≠ []) (all : ∀ c ∈ name, isWordChar c)
    (rest : List Char) :
    line? ('[' :: (name ++ ']' :: '\n' :: rest)) =
      some (.header [String.ofList name] false, rest) := by
  have key := @key?_word name (']' :: '\n' :: rest) filled all (by simp; decide)
    (by simp [skipSpace, isSpace])
  have close : skipSpace (']' :: '\n' :: rest) = ']' :: '\n' :: rest :=
    skipSpace_here (by simp; decide)
  obtain ⟨c, behind, starts, wordChar⟩ := @head_word name (']' :: '\n' :: rest) filled all
  have here : skipSpace (c :: behind) = c :: behind :=
    skipSpace_here (by simpa using not_space_of_isWordChar wordChar)
  have noBracket : c ≠ '[' := ne_of_isWordChar wordChar (by decide)
  have read : header? false (c :: behind) = some (.header [String.ofList name] false, rest) := by
    rw [starts, close] at key
    simp only [header?, here, key, Option.bind_eq_bind, Option.bind_some, lineEnd?_feed]
  rw [starts, line?]
  · exact read
  · intro behind' same
    exact noBracket (List.cons.inj same).1

theorem not_space_of_value? {fuel : Nat} {text : List Char} {found : Tree × List Char}
    (read : value? (fuel + 1) text = some found) : ∀ c ∈ text.head?, isSpace c = false := by
  intro c starts
  cases text with
  | nil => cases starts
  | cons first text =>
      cases starts
      rw [Bool.eq_false_iff]
      intro space
      simp only [isSpace, Bool.or_eq_true, beq_iff_eq] at space
      rcases space with rfl | rfl
      · cases read
      · cases read

theorem line?_pair {name value : List Char} {tree : Tree} {rest : List Char} (filled : name ≠ [])
    (all : ∀ c ∈ name, isWordChar c)
    (read : ∀ fuel, value? (fuel + 1) (value ++ '\n' :: rest) = some (tree, '\n' :: rest)) :
    line? (name ++ ' ' :: '=' :: ' ' :: (value ++ '\n' :: rest)) =
      some (.pair [String.ofList name] tree, rest) := by
  have blank (text : List Char) : skipSpace (' ' :: text) = skipSpace text := by
    simp [skipSpace, isSpace]
  have sign (text : List Char) : skipSpace (' ' :: '=' :: text) = '=' :: text := by
    rw [blank, skipSpace_here (by simp; decide)]
  have key := @key?_word name (' ' :: '=' :: ' ' :: (value ++ '\n' :: rest)) filled all
    (by simp; decide) (by simp [sign])
  have pair : pair? (name ++ ' ' :: '=' :: ' ' :: (value ++ '\n' :: rest)) =
      some (.pair [String.ofList name] tree, rest) := by
    simp only [pair?, key, sign, Option.bind_eq_bind, Option.bind_some, blank,
      skipSpace_here (not_space_of_value? (read 0)), read, lineEnd?_feed]
  obtain ⟨c, behind, same, wordChar⟩ :=
    @head_word name (' ' :: '=' :: ' ' :: (value ++ '\n' :: rest)) filled all
  have noBracket : c ≠ '[' := ne_of_isWordChar wordChar (by decide)
  rw [same] at pair ⊢
  unfold line?
  split
  · rename_i starts
    exact absurd (List.cons.inj starts).1 noBracket
  · rename_i starts
    exact absurd (List.cons.inj starts).1 noBracket
  · exact pair

def startsLine (c : Char) : Bool := !isSpace c && c != '\n' && c != '#'

theorem skipLines?_here {c : Char} (solid : startsLine c) (fuel : Nat) (text : List Char) :
    skipLines? fuel (c :: text) = some (c :: text) := by
  simp only [startsLine, Bool.and_eq_true, Bool.not_eq_true', bne_iff_ne] at solid
  cases fuel with
  | zero => rfl
  | succ fuel =>
      have here : skipSpace (c :: text) = c :: text := skipSpace_here (by simpa using solid.1.1)
      simp [skipLines?, here, solid]

theorem startsLine_of_isWordChar {c : Char} (wordChar : isWordChar c) : startsLine c := by
  simp [startsLine, not_space_of_isWordChar wordChar,
    ne_of_isWordChar wordChar (by decide : isWordChar '\n' = false),
    ne_of_isWordChar wordChar (by decide : isWordChar '#' = false)]

theorem lines?_cons {c : Char} {text rest : List Char} {line : Line} (solid : startsLine c)
    (read : line? (c :: text) = some (line, rest)) (fuel : Nat) :
    lines? (fuel + 1) (c :: text) = (lines? fuel rest).map (line :: ·) := by
  simp only [lines?, skipLines?_here solid, read]

theorem lines?_empty {c : Char} {text : List Char} (solid : startsLine c) (fuel : Nat) :
    lines? (fuel + 1) ('\n' :: c :: text) = lines? (fuel + 1) (c :: text) := by
  have skipped : skipLines? ('\n' :: c :: text).length ('\n' :: c :: text) = some (c :: text) := by
    rw [List.length_cons, skipLines?, skipSpace_here (by simp; decide)]
    exact skipLines?_here solid _ _
  simp only [lines?, skipped, skipLines?_here solid]

theorem foldLineEnds_eq {text : List Char} (noReturn : '\r' ∉ text) :
    foldLineEnds text = text := by
  induction text with
  | nil => rfl
  | cons c text ih =>
      simp only [List.mem_cons, not_or] at noReturn
      have other : c ≠ '\r' := Ne.symm noReturn.1
      simp [foldLineEnds, other, ih noReturn.2]

end RadixForest.Document.Toml
