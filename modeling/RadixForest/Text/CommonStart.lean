/-!
The longest common start of two texts, and lengths in bytes of their UTF-8 form. Two texts are
compared character by character, so a cut after the common start never splits a character, even
where the differing characters share their first bytes.
-/

namespace RadixForest.Text

def utf8Length : List Char → Nat
  | [] => 0
  | c :: rest => c.utf8Size + utf8Length rest

def splitAtByte? : Nat → List Char → Option (List Char × List Char)
  | 0, text => some ([], text)
  | _ + 1, [] => none
  | bytes + 1, c :: rest =>
    if bytes + 1 < c.utf8Size then none
    else (splitAtByte? (bytes + 1 - c.utf8Size) rest).map fun (before, behind) =>
      (c :: before, behind)

structure Divergence where
  shared : List Char
  left : List Char
  right : List Char

/-- Takes the longest common start off both texts. -/
def diverge : List Char → List Char → Divergence
  | c :: left, d :: right =>
    if c = d then
      let later := diverge left right
      { later with shared := c :: later.shared }
    else ⟨[], c :: left, d :: right⟩
  | left, right => ⟨[], left, right⟩

def placed (place : Nat) : List Char → List (Nat × Char)
  | [] => []
  | c :: rest => (place, c) :: placed (place + c.utf8Size) rest

def firstDifference? (place : Nat) (left right : List Char) : Option Nat :=
  (((placed place left).zip right).find? fun pair => pair.1.2 != pair.2).map (·.1.1)

/-- Length in bytes of the longest common start. Texts that do not differ side by side share all of
the shorter one. -/
def commonStartLength (left right : List Char) : Nat :=
  (firstDifference? 0 left right).getD (min (utf8Length left) (utf8Length right))

theorem diverge_left (left right : List Char) :
    (diverge left right).shared ++ (diverge left right).left = left := by
  fun_induction diverge left right with
  | case1 c left right later ih => simpa using ih
  | case2 => rfl
  | case3 => rfl

theorem diverge_right (left right : List Char) :
    (diverge left right).shared ++ (diverge left right).right = right := by
  fun_induction diverge left right with
  | case1 c left right later ih => simpa using ih
  | case2 => rfl
  | case3 => rfl

@[simp] theorem diverge_nil_left (right : List Char) : diverge [] right = ⟨[], [], right⟩ := by
  cases right <;> rfl

@[simp] theorem diverge_nil_right (left : List Char) : diverge left [] = ⟨[], left, []⟩ := by
  cases left <;> rfl

theorem diverge_of_ne {c d : Char} (different : c ≠ d) (left right : List Char) :
    diverge (c :: left) (d :: right) = ⟨[], c :: left, d :: right⟩ := by
  simp [diverge, different]

theorem diverge_append (start left right : List Char) :
    diverge (start ++ left) (start ++ right) =
      { diverge left right with shared := start ++ (diverge left right).shared } := by
  induction start with
  | nil => rfl
  | cons c start ih => simp [diverge, ih]

theorem diverge_self (text : List Char) : diverge text text = ⟨text, [], []⟩ := by
  simpa using diverge_append text [] []

theorem diverge_extended_right (text more : List Char) :
    diverge text (text ++ more) = ⟨text, [], more⟩ := by
  simpa using diverge_append text [] more

theorem diverge_extended_left (text more : List Char) :
    diverge (text ++ more) text = ⟨text, more, []⟩ := by
  simpa using diverge_append text more []

theorem diverge_fork {c d : Char} (different : c ≠ d) (start left right : List Char) :
    diverge (start ++ c :: left) (start ++ d :: right) = ⟨start, c :: left, d :: right⟩ := by
  simp [diverge_append, diverge_of_ne different]

theorem diverge_apart {left right leftTail rightTail : List Char} {c d : Char}
    (leftOn : (diverge left right).left = c :: leftTail)
    (rightOn : (diverge left right).right = d :: rightTail) : c ≠ d := by
  fun_induction diverge left right with
  | case1 c' left right later ih => exact ih leftOn rightOn
  | case2 c' left d' right different =>
      simp only [List.cons.injEq] at leftOn rightOn
      rw [← leftOn.1, ← rightOn.1]
      exact different
  | case3 left right notBoth => exact absurd rightOn (notBoth _ _ _ _ leftOn)

theorem diverge_cases (left right : List Char) :
    (diverge left right).left = [] ∨ (diverge left right).right = [] ∨
      ∃ c leftTail d rightTail, (diverge left right).left = c :: leftTail ∧
        (diverge left right).right = d :: rightTail ∧ c ≠ d := by
  cases leftOn : (diverge left right).left with
  | nil => exact Or.inl rfl
  | cons c leftTail =>
      cases rightOn : (diverge left right).right with
      | nil => exact Or.inr (Or.inl rfl)
      | cons d rightTail =>
          have different := diverge_apart leftOn rightOn
          exact Or.inr (Or.inr ⟨c, leftTail, d, rightTail, rfl, rfl, different⟩)

/-- What starts both texts starts what they share, so nothing longer does. -/
theorem prefix_shared_iff (start left right : List Char) :
    start <+: (diverge left right).shared ↔ start <+: left ∧ start <+: right := by
  fun_induction diverge left right generalizing start with
  | case1 left c right later ih =>
      cases start with
      | nil => simp
      | cons first start =>
          simp only [List.cons_prefix_cons, later, ih]
          exact and_and_left
  | case2 c left d right different =>
      cases start with
      | nil => simp
      | cons first start =>
          simp only [List.cons_prefix_cons, List.prefix_nil, reduceCtorEq, false_iff]
          rintro ⟨⟨rfl, _⟩, same, _⟩
          exact different same
  | case3 left right notBoth =>
      cases left with
      | nil => simp +contextual
      | cons c left =>
          cases right with
          | nil => simp +contextual
          | cons d right => exact absurd rfl (notBoth c left d right rfl)

theorem diverge_swap (left right : List Char) :
    diverge right left =
      ⟨(diverge left right).shared, (diverge left right).right, (diverge left right).left⟩ := by
  fun_induction diverge left right with
  | case1 left c right later ih => simp [diverge, ih, later]
  | case2 c left d right different => rw [diverge_of_ne (Ne.symm different)]
  | case3 left right notBoth =>
      cases left with
      | nil => rw [diverge_nil_right]
      | cons c left =>
          cases right with
          | nil => rw [diverge_nil_left]
          | cons d right => exact absurd rfl (notBoth c left d right rfl)

theorem firstDifference?_eq (place : Nat) (left right : List Char) :
    firstDifference? place left right =
      if (diverge left right).left = [] ∨ (diverge left right).right = [] then none
      else some (place + utf8Length (diverge left right).shared) := by
  fun_induction diverge left right generalizing place with
  | case1 left c right later ih =>
      have step : firstDifference? place (c :: left) (c :: right) =
          firstDifference? (place + c.utf8Size) left right := by
        simp [firstDifference?, placed]
      rw [step, ih, utf8Length, Nat.add_assoc]
  | case2 c left d right different =>
      simp [firstDifference?, placed, different, utf8Length]
  | case3 left right notBoth =>
      cases left with
      | nil => simp [firstDifference?, placed]
      | cons c left =>
          cases right with
          | nil => simp [firstDifference?]
          | cons d right => exact absurd rfl (notBoth c left d right rfl)

end RadixForest.Text
