import RadixForest.Text.Lowercase

/-!
Lower-casing across a character without case. What stands on one side of it does not count on the
other, so both sides are lower-cased on their own.
-/

namespace RadixForest.Text

/-- Ends the search for a letter with case without being one. -/
def isBarrier (c : Char) : Bool := !caseIgnorable.contains c && !cased.contains c

theorem meetsCased_barrier {c : Char} (barrier : isBarrier c) (near far : List Char) :
    meetsCased (near ++ c :: far) = meetsCased near := by
  simp only [isBarrier, Bool.and_eq_true, Bool.not_eq_true'] at barrier
  unfold meetsCased
  induction near with
  | nil => simp [barrier]
  | cons first rest ih =>
      rw [List.cons_append, List.dropWhile_cons, List.dropWhile_cons]
      split
      · exact ih
      · rfl

theorem lowercaseFrom_barrier {c : Char} (barrier : isBarrier c) (near far text : List Char) :
    lowercaseFrom (near ++ c :: far) text = lowercaseFrom near text := by
  induction text generalizing near with
  | nil => rfl
  | cons first rest ih =>
      rw [lowercaseFrom, lowercaseFrom, endsWord, endsWord, meetsCased_barrier barrier]
      exact congrArg _ (ih (first :: near))

theorem ne_sigma_of_barrier {c : Char} (barrier : isBarrier c) : c ≠ '\u03A3' := by
  rintro rfl
  exact absurd barrier (by decide +kernel)

theorem lowercaseFrom_append {c : Char} (barrier : isBarrier c) (before text rest : List Char) :
    lowercaseFrom before (text ++ c :: rest) =
      lowercaseFrom before text ++ lowercaseChar c ++ lowercase rest := by
  induction text generalizing before with
  | nil =>
      have first : lowercaseFrom before (c :: rest) =
          lowercaseChar c ++ lowercaseFrom (c :: before) rest := by
        rw [lowercaseFrom, if_neg (ne_sigma_of_barrier barrier)]
      exact first.trans (congrArg _ (lowercaseFrom_barrier barrier [] before rest))
  | cons first text ih =>
      rw [List.cons_append, lowercaseFrom, lowercaseFrom, ih, endsWord, endsWord,
        meetsCased_barrier barrier]
      simp only [List.append_assoc]

theorem lowercase_append {c : Char} (barrier : isBarrier c) (text rest : List Char) :
    lowercase (text ++ c :: rest) = lowercase text ++ lowercaseChar c ++ lowercase rest :=
  lowercaseFrom_append barrier [] text rest

theorem lowercase_underscores (text rest : List Char) :
    lowercase (text ++ '_' :: '_' :: rest) = lowercase text ++ '_' :: '_' :: lowercase rest := by
  have barrier : isBarrier '_' := by decide +kernel
  have alone : lowercaseChar '_' = ['_'] := by decide +kernel
  have second := lowercase_append barrier [] rest
  rw [lowercase_append barrier, ← List.nil_append ('_' :: rest), second, alone]
  simp [lowercase, lowercaseFrom]

end RadixForest.Text
