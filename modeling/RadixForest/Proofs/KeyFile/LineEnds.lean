import Mathlib.Data.List.Basic
import RadixForest.KeyFile

/-!
Line endings of key files. What a line holds is read without the carriage returns at its end, so it
does not matter how many of them stand before a line feed or behind the last line.
-/

namespace RadixForest.KeyFile

/-- Two texts of which the second has more carriage returns, before any of its line feeds and at
its end. -/
inductive Returned : List Char → List Char → Prop
  | atEnd (count : Nat) : Returned [] (List.replicate count '\r')
  | atFeed (count : Nat) {text returned : List Char} : Returned text returned →
      Returned ('\n' :: text) (List.replicate count '\r' ++ '\n' :: returned)
  | inLine {c : Char} {text returned : List Char} : c ≠ '\n' → Returned text returned →
      Returned (c :: text) (c :: returned)

def withReturns (text : List Char) : List Char :=
  text.flatMap fun c => if c = '\n' then ['\r', '\n'] else [c]

theorem returned_withReturns (text : List Char) : Returned text (withReturns text) := by
  induction text with
  | nil => exact .atEnd 0
  | cons c rest ih =>
      rw [withReturns, List.flatMap_cons]
      by_cases feed : c = '\n'
      · rw [if_pos feed, feed]
        exact .atFeed 1 ih
      · rw [if_neg feed]
        exact .inLine feed ih

theorem linesFrom_append {part : List Char} (single : '\n' ∉ part) (line rest : List Char) :
    linesFrom line (part ++ rest) = linesFrom (part.reverse ++ line) rest := by
  induction part generalizing line with
  | nil => rfl
  | cons c part ih =>
      rw [List.mem_cons, not_or] at single
      rw [List.cons_append, linesFrom, ih single.2, List.reverse_cons, List.append_assoc]
      · rfl
      · exact Ne.symm single.1

theorem parseLine_congr {one other : List Char} (same : trimLineEnds one = trimLineEnds other)
    (number : Nat) : parseLine number one = parseLine number other := by
  unfold parseLine
  rw [same]

theorem trimLineEnds_reverse (line : List Char) :
    trimLineEnds line.reverse = (line.dropWhile isLineEnd).reverse := by
  rw [trimLineEnds, List.reverse_reverse]

def entryAt (number : Nat) (line : List Char) : List (Nat × Entry) :=
  ((parseLine number line).map fun entry => (number, entry)).toList

theorem entryAt_returns (number count : Nat) (line : List Char) :
    entryAt number (List.replicate count '\r' ++ line).reverse = entryAt number line.reverse := by
  unfold entryAt
  rw [parseLine_congr]
  rw [trimLineEnds_reverse, trimLineEnds_reverse, List.dropWhile_append_of_pos]
  intro c member
  rw [List.eq_of_mem_replicate member]
  rfl

theorem entriesFrom_cons (number : Nat) (line : List Char) (rest : List (List Char)) :
    entriesFrom number (line :: rest) = entryAt number line ++ entriesFrom (number + 1) rest := by
  rw [entriesFrom, entryAt]
  cases parseLine number line <;> rfl

theorem entriesFrom_feed (number : Nat) (line rest : List Char) :
    entriesFrom number (linesFrom line ('\n' :: rest)) =
      entryAt number line.reverse ++ entriesFrom (number + 1) (lines rest) := by
  by_cases ended : ∃ before, line = '\r' :: before
  · obtain ⟨before, rfl⟩ := ended
    rw [linesFrom, entriesFrom_cons, lines]
    exact congrArg (· ++ _) (entryAt_returns number 1 before).symm
  · rw [linesFrom, entriesFrom_cons, lines]
    exact fun before same => ended ⟨before, same⟩

theorem entriesFrom_end (number : Nat) (line : List Char) :
    entriesFrom number (linesFrom line []) = entryAt number line.reverse := by
  cases line with
  | nil => rfl
  | cons c line =>
      rw [linesFrom, List.isEmpty_cons, if_neg Bool.false_ne_true, entriesFrom_cons]
      exact List.append_nil _

theorem not_mem_returns (count : Nat) : '\n' ∉ List.replicate count '\r' := by
  simp

theorem Returned.entriesFrom {text returned : List Char} (more : Returned text returned)
    (number : Nat) (line : List Char) :
    entriesFrom number (linesFrom line returned) = entriesFrom number (linesFrom line text) := by
  induction more generalizing number line with
  | atEnd count =>
      have run := linesFrom_append (not_mem_returns count) line []
      rw [List.append_nil, List.reverse_replicate] at run
      rw [run, entriesFrom_end, entriesFrom_end, entryAt_returns]
  | atFeed count _ ih =>
      rw [linesFrom_append (not_mem_returns count), List.reverse_replicate, entriesFrom_feed,
        entriesFrom_feed, entryAt_returns]
      exact congrArg (_ ++ ·) (ih (number + 1) [])
  | inLine other _ ih =>
      rw [linesFrom, linesFrom]
      · exact ih number _
      · exact other
      · exact other

theorem Returned.loadText {text returned : List Char} (more : Returned text returned)
    (path : String) (trie : Trie String) (replace : Bool) :
    loadText path returned trie replace = loadText path text trie replace := by
  unfold KeyFile.loadText entries lines
  rw [more.entriesFrom]

/-- A file loads as it would with more carriage returns before its line feeds and at its end: the
same is counted, stored and told. So it does not matter which of the two line endings it has. -/
theorem load_ignores_returns (files : Files) (path : String) (text : String)
    (readable : files.readText path = .ok text) (trie : Trie String) (replace : Bool) :
    ∃ loaded, load files path trie replace = .ok loaded ∧
      (∀ (other : Files) (returned : String), Returned text.toList returned.toList →
        other.readText path = .ok returned → load other path trie replace = .ok loaded) ∧
      ∀ other : Files, other.readText path = .ok (String.ofList (withReturns text.toList)) →
        load other path trie replace = .ok loaded := by
  have all (other : Files) (returned : String) (more : Returned text.toList returned.toList)
      (otherReadable : other.readText path = .ok returned) :
      load other path trie replace = .ok (loadText path text.toList trie replace) := by
    rw [load_of_readText otherReadable, more.loadText]
  refine ⟨_, load_of_readText readable trie replace, all, ?_⟩
  intro other otherReadable
  refine all other _ ?_ otherReadable
  rw [String.toList_ofList]
  exact returned_withReturns text.toList

theorem load_ignores_returns_of_duplicate :
    (⟨[(["keys"], .file "ox\n\nox".toUTF8)]⟩ : Files).readText "keys" = .ok "ox\n\nox" ∧
      ∃ loaded,
        load ⟨[(["keys"], .file "ox\n\nox".toUTF8)]⟩ "keys" (Trie.empty {}) false = .ok loaded ∧
        load ⟨[(["keys"], .file "ox\r\r\n\nox\r".toUTF8)]⟩ "keys" (Trie.empty {}) false =
          .ok loaded ∧
        load ⟨[(["keys"], .file "ox\r\n\r\nox".toUTF8)]⟩ "keys" (Trie.empty {}) false =
          .ok loaded := by
  have readable : (⟨[(["keys"], .file "ox\n\nox".toUTF8)]⟩ : Files).readText "keys" =
      .ok "ox\n\nox" := by
    decide +kernel
  have more : Returned "ox\n\nox".toList "ox\r\r\n\nox\r".toList :=
    .inLine (by decide) (.inLine (by decide) (.atFeed 2 (.atFeed 0
      (.inLine (by decide) (.inLine (by decide) (.atEnd 1))))))
  obtain ⟨loaded, loads, same, sameEnding⟩ :=
    load_ignores_returns _ "keys" _ readable (Trie.empty {}) false
  exact ⟨readable, loaded, loads, same _ _ more (by decide +kernel),
    sameEnding _ (by decide +kernel)⟩

end RadixForest.KeyFile
