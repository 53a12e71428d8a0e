import RadixForest.Text.CommonStart

/-!
Cuts by a number of bytes. Behind whole characters a text is cut into these and the rest, so two
texts can be cut behind their common start.
-/

namespace RadixForest.Text

theorem utf8Length_append (before behind : List Char) :
    utf8Length (before ++ behind) = utf8Length before + utf8Length behind := by
  induction before with
  | nil => simp [utf8Length]
  | cons c rest ih =>
      simp only [List.cons_append, utf8Length, ih]
      omega

theorem splitAtByte?_append (before behind : List Char) :
    splitAtByte? (utf8Length before) (before ++ behind) = some (before, behind) := by
  induction before with
  | nil => rw [utf8Length, splitAtByte?, List.nil_append]
  | cons c rest ih =>
      have positive := c.utf8Size_pos
      obtain ⟨bytes, size⟩ : ∃ bytes, c.utf8Size + utf8Length rest = bytes + 1 :=
        ⟨c.utf8Size + utf8Length rest - 1, by omega⟩
      have left : bytes + 1 - c.utf8Size = utf8Length rest := by omega
      rw [List.cons_append, utf8Length, size, splitAtByte?, if_neg (by omega), left, ih]
      rfl

theorem eq_nil_of_utf8Length {text : List Char} (empty : utf8Length text = 0) : text = [] := by
  cases text with
  | nil => rfl
  | cons c rest =>
      have positive := c.utf8Size_pos
      rw [utf8Length] at empty
      omega

theorem commonStartLength_eq (left right : List Char) :
    commonStartLength left right = utf8Length (diverge left right).shared := by
  have leftLength := congrArg utf8Length (diverge_left left right)
  have rightLength := congrArg utf8Length (diverge_right left right)
  rw [utf8Length_append] at leftLength rightLength
  rw [commonStartLength, firstDifference?_eq, Nat.zero_add]
  split
  · -- One text is all shared, so it is the shorter one.
    rename_i ended
    rw [Option.getD_none]
    rcases ended with ended | ended
    · rw [ended, utf8Length] at leftLength
      omega
    · rw [ended, utf8Length] at rightLength
      omega
  · rfl

theorem utf8Length_left (left right : List Char) :
    utf8Length left = commonStartLength left right + utf8Length (diverge left right).left := by
  rw [commonStartLength_eq, ← utf8Length_append, diverge_left]

theorem utf8Length_right (left right : List Char) :
    utf8Length right = commonStartLength left right + utf8Length (diverge left right).right := by
  rw [commonStartLength_eq, ← utf8Length_append, diverge_right]

theorem splitAtByte?_left (left right : List Char) :
    splitAtByte? (commonStartLength left right) left =
      some ((diverge left right).shared, (diverge left right).left) := by
  have cut := splitAtByte?_append (diverge left right).shared (diverge left right).left
  rwa [diverge_left, ← commonStartLength_eq] at cut

theorem splitAtByte?_right (left right : List Char) :
    splitAtByte? (commonStartLength left right) right =
      some ((diverge left right).shared, (diverge left right).right) := by
  have cut := splitAtByte?_append (diverge left right).shared (diverge left right).right
  rwa [diverge_right, ← commonStartLength_eq] at cut

end RadixForest.Text
