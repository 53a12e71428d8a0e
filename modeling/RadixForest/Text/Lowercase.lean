import RadixForest.Text.CaseTables

/-!
Full lower-casing of text. Every character is replaced on its own, with two rules beside the
table: the dotted capital I becomes two characters, and a capital sigma becomes the final form
where it ends a word, judged by its neighbours in the text as it was given.
-/

namespace RadixForest.Text

def CaseRun.covers (run : CaseRun) (c : Char) : Bool :=
  run.first ≤ c.toNat && c.toNat ≤ run.last && (c.toNat - run.first) % run.step == 0

def lowercaseChar (c : Char) : List Char :=
  if c = '\u0130' then ['i', '\u0307']
  else match lowercaseRuns.find? (·.covers c) with
    | some run => [Char.ofNat (c.toNat + run.shift).toNat]
    | none => [c]

def meetsCased (neighbours : List Char) : Bool :=
  (neighbours.dropWhile caseIgnorable.contains).head?.any cased.contains

/-- A sigma is final when a cased letter comes before it and none comes after it. The text
before is given backwards. -/
def endsWord (before after : List Char) : Bool :=
  meetsCased before && !meetsCased after

def lowercaseFrom (before : List Char) : List Char → List Char
  | [] => []
  | c :: rest =>
    (if c = '\u03A3' then [if endsWord before rest then '\u03C2' else '\u03C3']
      else lowercaseChar c) ++ lowercaseFrom (c :: before) rest

def lowercase (text : List Char) : List Char := lowercaseFrom [] text

def lowercaseString (text : String) : String := String.ofList (lowercase text.toList)

theorem lowercaseChar_ne_nil (c : Char) : lowercaseChar c ≠ [] := by
  unfold lowercaseChar
  split
  · simp
  · split <;> simp

theorem lowercase_ne_nil {text : List Char} (filled : text ≠ []) : lowercase text ≠ [] := by
  obtain ⟨c, rest, rfl⟩ := List.exists_cons_of_ne_nil filled
  rw [lowercase, lowercaseFrom]
  apply List.append_ne_nil_of_left_ne_nil
  split
  · simp
  · exact lowercaseChar_ne_nil c

end RadixForest.Text
