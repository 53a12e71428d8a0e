import RadixForest.Proofs.Text.Cuts

/-!
The longest common start in the bytes of two strings. It is found character by character, so what it
ends at is a place between two characters in both, even where the bytes go on alike.
-/

namespace RadixForest.Text

theorem ofList_cons (c : Char) (rest : List Char) :
    String.ofList (c :: rest) = String.singleton c ++ String.ofList rest := by
  rw [String.singleton_eq_ofList, ← String.ofList_append]
  rfl

theorem utf8Length_eq (text : List Char) : utf8Length text = (String.ofList text).utf8ByteSize := by
  induction text with
  | nil => rfl
  | cons c rest ih =>
      rw [utf8Length, ih, ofList_cons, String.utf8ByteSize_append, String.utf8ByteSize_singleton]

theorem utf8Length_toList (text : String) : utf8Length text.toList = text.utf8ByteSize := by
  rw [utf8Length_eq, String.ofList_toList]

theorem exists_place {text : String} {before behind : List Char}
    (whole : text.toList = before ++ behind) :
    ∃ place : text.Pos, place.offset.byteIdx = utf8Length before ∧
      place.Splits (String.ofList before) (String.ofList behind) := by
  have parts : text = String.ofList before ++ String.ofList behind := by
    rw [← String.ofList_append, ← whole, String.ofList_toList]
  have between : (String.ofList before).rawEndPos.IsValid text :=
    String.Pos.Raw.isValid_iff_exists_append.mpr ⟨_, _, parts, rfl⟩
  exact ⟨⟨_, between⟩, (utf8Length_eq before).symm, parts, rfl⟩

theorem get_of_splits {text : String} {place : text.Pos} {before : String} {c : Char}
    {rest : List Char} (splits : place.Splits before (String.ofList (c :: rest))) :
    ∃ goesOn : place ≠ text.endPos, place.get goesOn = c := by
  rw [ofList_cons] at splits
  exact ⟨splits.ne_endPos_of_singleton, splits.next.get_eq_of_singleton⟩

theorem commonStartLength_comm (left right : List Char) :
    commonStartLength right left = commonStartLength left right := by
  rw [commonStartLength_eq, commonStartLength_eq, diverge_swap left right]

theorem commonStartLength_eq_left_iff (left right : List Char) :
    commonStartLength left right = utf8Length left ↔ left <+: right := by
  have whole := diverge_left left right
  have length := utf8Length_left left right
  constructor
  · intro all
    have ended : (diverge left right).left = [] := eq_nil_of_utf8Length (by omega)
    rw [ended, List.append_nil] at whole
    exact ⟨_, whole ▸ diverge_right left right⟩
  · rintro ⟨more, rfl⟩
    rw [commonStartLength_eq, diverge_extended_right]

/-- Found by reading two strings side by side, the length of their longest common start is that of a
place between characters in both. Before it they are the same, and right behind it they differ or
one of them has ended. -/
theorem commonStartLength_exact (left right : String) :
    commonStartLength right.toList left.toList = commonStartLength left.toList right.toList ∧
    let length := commonStartLength left.toList right.toList
    let parts := diverge left.toList right.toList
    (length ≤ left.utf8ByteSize ∧ length ≤ right.utf8ByteSize) ∧
    (∃ (inLeft : left.Pos) (inRight : right.Pos),
      inLeft.offset.byteIdx = length ∧ inRight.offset.byteIdx = length ∧
      (left.sliceTo inLeft).copy = (right.sliceTo inRight).copy ∧
      (length = left.utf8ByteSize ∨ length = right.utf8ByteSize ∨
        ∃ leftOn rightOn, inLeft.get leftOn ≠ inRight.get rightOn)) ∧
    (length = left.utf8ByteSize ↔ left.toList <+: right.toList) ∧
    length = (String.ofList parts.shared).utf8ByteSize ∧
    (∀ start, start <+: parts.shared ↔ start <+: left.toList ∧ start <+: right.toList) ∧
    splitAtByte? length left.toList = some (parts.shared, parts.left) ∧
    splitAtByte? length right.toList = some (parts.shared, parts.right) := by
  refine ⟨commonStartLength_comm left.toList right.toList, ?_⟩
  intro length parts
  have leftLength : left.utf8ByteSize = length + utf8Length parts.left := by
    rw [← utf8Length_toList, utf8Length_left left.toList right.toList]
  have rightLength : right.utf8ByteSize = length + utf8Length parts.right := by
    rw [← utf8Length_toList, utf8Length_right left.toList right.toList]
  have lengthEq : length = utf8Length parts.shared := commonStartLength_eq left.toList right.toList
  have leftWhole : left.toList = parts.shared ++ parts.left := (diverge_left _ _).symm
  have rightWhole : right.toList = parts.shared ++ parts.right := (diverge_right _ _).symm
  obtain ⟨inLeft, leftOffset, leftSplits⟩ := exists_place leftWhole
  obtain ⟨inRight, rightOffset, rightSplits⟩ := exists_place rightWhole
  rw [← lengthEq] at leftOffset rightOffset
  refine ⟨by omega, ⟨inLeft, inRight, leftOffset, rightOffset, ?_, ?_⟩, ?_, ?_,
    fun start => prefix_shared_iff start left.toList right.toList,
    splitAtByte?_left left.toList right.toList, splitAtByte?_right left.toList right.toList⟩
  · rw [inLeft.splits.eq_left leftSplits, inRight.splits.eq_left rightSplits]
  · have ends : parts.left = [] ∨ parts.right = [] ∨ ∃ c leftTail d rightTail,
        parts.left = c :: leftTail ∧ parts.right = d :: rightTail ∧ c ≠ d := diverge_cases _ _
    rcases ends with ended | ended | ⟨c, leftTail, d, rightTail, leftOn, rightOn, different⟩
    · rw [ended, utf8Length] at leftLength
      exact Or.inl leftLength.symm
    · rw [ended, utf8Length] at rightLength
      exact Or.inr (Or.inl rightLength.symm)
    · rw [leftOn] at leftSplits
      rw [rightOn] at rightSplits
      obtain ⟨leftGoesOn, here⟩ := get_of_splits leftSplits
      obtain ⟨rightGoesOn, there⟩ := get_of_splits rightSplits
      refine Or.inr (Or.inr ⟨leftGoesOn, rightGoesOn, ?_⟩)
      rwa [here, there]
  · rw [← commonStartLength_eq_left_iff, utf8Length_toList]
  · rw [lengthEq, utf8Length_eq]

-- The two characters share their first byte, and it does not count.
example : commonStartLength ['d', 'é', 's'] ['d', 'è', 's'] = 1 := by decide

end RadixForest.Text
