/-
Conformance position by position. A position is held if both the mask and the value reach it and
the character may stand there. The position that is reported is the first one that is not held
and that at least one of them reaches.
-/
import InputMask.Proofs.Conformance.Conforming

namespace InputMask

def HeldAt (separators : Separators) (space : Char) (elements : List Element)
    (value : List Char) (position : Nat) : Prop :=
  ∃ element c, elements[position]? = some element ∧ value[position]? = some c ∧
    element.holds separators space c = true

section Positions

variable {separators : Separators} {space : Char} {elements : List Element} {value : List Char}
  {position : Nat}

theorem HeldAt.holds {element : Element} {c : Char}
    (held : HeldAt separators space elements value position)
    (atPosition : elements[position]? = some element) (character : value[position]? = some c) :
    element.holds separators space c = true := by
  obtain ⟨other, d, otherAt, dAt, holds⟩ := held
  rw [atPosition, Option.some.injEq] at otherAt
  rw [character, Option.some.injEq] at dAt
  rwa [otherAt, dAt]

theorem HeldAt.lt_elements (held : HeldAt separators space elements value position) :
    position < elements.length := by
  obtain ⟨element, c, atPosition, _⟩ := held
  exact (List.getElem?_eq_some_iff.mp atPosition).1

theorem HeldAt.lt_value (held : HeldAt separators space elements value position) :
    position < value.length := by
  obtain ⟨element, c, _, character, _⟩ := held
  exact (List.getElem?_eq_some_iff.mp character).1

private theorem heldAt_zero (element : Element) (c : Char) :
    HeldAt separators space (element :: elements) (c :: value) 0 ↔
      element.holds separators space c = true := by
  constructor
  · intro held
    exact held.holds rfl rfl
  · intro holds
    exact ⟨element, c, rfl, rfl, holds⟩

/-- Everything after the first position is a matter of the rest. -/
private theorem heldAt_succ (element : Element) (c : Char) :
    HeldAt separators space (element :: elements) (c :: value) (position + 1) ↔
      HeldAt separators space elements value position :=
  Iff.rfl

/-- The report is the first position, which at least one of the two reaches. -/
private theorem eq_zero_iff_first (unheld : ¬HeldAt separators space elements value 0)
    (reached : 0 < elements.length ∨ 0 < value.length) :
    0 = position ↔
      (∀ earlier < position, HeldAt separators space elements value earlier) ∧
        ¬HeldAt separators space elements value position ∧
        (position < elements.length ∨ position < value.length) := by
  constructor
  · intro same
    subst position
    exact ⟨fun earlier before => absurd before (Nat.not_lt_zero earlier), unheld, reached⟩
  · intro ⟨before, _unheldHere, _reachedHere⟩
    apply Classical.byContradiction
    intro later
    exact unheld (before 0 (Nat.pos_of_ne_zero (Ne.symm later)))

theorem firstViolation?_eq_some_iff :
    firstViolation? separators space elements value = some position ↔
      (∀ earlier < position, HeldAt separators space elements value earlier) ∧
        ¬HeldAt separators space elements value position ∧
        (position < elements.length ∨ position < value.length) := by
  induction elements generalizing value position with
  | nil =>
      cases value with
      | nil => simp [firstViolation?]
      | cons c later =>
          rw [firstViolation?, Option.some.injEq]
          exact eq_zero_iff_first (fun held => absurd held.lt_elements (Nat.not_lt_zero 0))
            (Or.inr (Nat.succ_pos _))
  | cons element rest ih =>
      cases value with
      | nil =>
          rw [firstViolation?, Option.some.injEq]
          exact eq_zero_iff_first (fun held => absurd held.lt_value (Nat.not_lt_zero 0))
            (Or.inl (Nat.succ_pos _))
      | cons c later =>
          rw [firstViolation?]
          by_cases held : element.holds separators space c = true
          · rw [if_pos held]
            cases position with
            | zero =>
                have heldHere : HeldAt separators space (element :: rest) (c :: later) 0 :=
                  (heldAt_zero element c).mpr held
                simp [heldHere]
            | succ position =>
                have shifted : (firstViolation? separators space rest later).map (· + 1) =
                    some (position + 1) ↔
                      firstViolation? separators space rest later = some position := by
                  simp
                rw [shifted, ih, Nat.forall_lt_succ_left]
                simp only [heldAt_zero, heldAt_succ, held, true_and, List.length_cons,
                  Nat.add_lt_add_iff_right]
          · rw [if_neg held, Option.some.injEq]
            exact eq_zero_iff_first (mt (heldAt_zero element c).mp held)
              (Or.inl (Nat.succ_pos _))

theorem firstViolation?_eq_none_iff_heldAt :
    firstViolation? separators space elements value = none ↔
      elements.length = value.length ∧
        ∀ position < elements.length, HeldAt separators space elements value position := by
  rw [firstViolation?_eq_none_iff, List.forall₂_iff_get]
  refine and_congr_right fun sameLength => ?_
  constructor
  · intro held position inMask
    have inValue : position < value.length := sameLength ▸ inMask
    exact ⟨_, _, List.getElem?_eq_getElem inMask, List.getElem?_eq_getElem inValue,
      held position inMask inValue⟩
  · intro held position inMask inValue
    exact (held position inMask).holds (List.getElem?_eq_getElem inMask)
      (List.getElem?_eq_getElem inValue)

end Positions

end InputMask
