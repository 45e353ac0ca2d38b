/-
The first violation of a value, told position by position without the checker. A position is good
if its element shows the character there or may have it in its slot. A value conforms if it is as
long as the mask and good everywhere; otherwise the report is the first position that is not good
or that only one of the two reaches.

The report depends on the value up to the reported position and on nothing after it.
-/
import InputMask.Proofs.Conformance.Applied

namespace InputMask

namespace Element

/-- The character is the one that a fixed element shows. In a data slot it is blank and the slot
need not be filled, or it is not blank and the slot accepts it. -/
def Suits (separators : Separators) (space : Char) (element : Element) (c : Char) : Prop :=
  let blank := c = ' ' ∨ (c = space ∧ element.accepts c = false)
  (element.isFixed = true ∧ element.fixed? separators = some c) ∨
    (element.isFixed = false ∧
      ((blank ∧ element.isRequired = false) ∨ (¬blank ∧ element.accepts c = true)))

theorem holds_iff_suits (separators : Separators) (space : Char) (element : Element) (c : Char) :
    element.holds separators space c = true ↔ element.Suits separators space c := by
  cases kind : element.isFixed with
  | true =>
      have isSome := (element.fixed?_isSome separators).trans kind
      obtain ⟨fixed, shown⟩ := Option.isSome_iff_exists.mp isSome
      rw [holds_fixed_iff shown, Suits, shown, kind]
      simp [eq_comm (a := c)]
  | false =>
      have shown := (element.fixed?_eq_none_iff separators).mpr kind
      rw [holds_iff_not_unfit shown]
      unfold Unfit Suits
      by_cases blank : c = ' ' ∨ (c = space ∧ element.accepts c = false)
      · simp [blank, kind]
      · simp [blank, kind]

end Element

def Mask.GoodAt (mask : Mask) (separators : Separators) (space : Char) (value : List Char)
    (position : Nat) : Prop :=
  ∃ element c, mask.elements[position]? = some element ∧ value[position]? = some c ∧
    element.Suits separators space c

theorem Mask.goodAt_iff_heldAt (mask : Mask) (separators : Separators) (space : Char)
    (value : List Char) (position : Nat) :
    mask.GoodAt separators space value position ↔
      HeldAt separators space mask.elements value position := by
  unfold GoodAt HeldAt
  simp only [Element.holds_iff_suits]

section Reports

variable {separators : Separators} {space : Char} {elements : List Element} {value : List Char}
  {position : Nat}

private theorem le_lengths_of_held_before
    (before : ∀ earlier < position, HeldAt separators space elements value earlier) :
    position ≤ elements.length ∧ position ≤ value.length := by
  constructor
  · apply Nat.le_of_not_lt
    intro beyond
    exact Nat.lt_irrefl _ (before elements.length beyond).lt_elements
  · apply Nat.le_of_not_lt
    intro beyond
    exact Nat.lt_irrefl _ (before value.length beyond).lt_value

/-- Behind positions that are all held, what is not held is a wrong character or the end of one
of the two. -/
private theorem unheld_iff_exit
    (before : ∀ earlier < position, HeldAt separators space elements value earlier) :
    (¬HeldAt separators space elements value position ∧
        (position < elements.length ∨ position < value.length)) ↔
      (position < elements.length ∧ position < value.length ∧
          ¬HeldAt separators space elements value position) ∨
        (position = value.length ∧ value.length < elements.length) ∨
        (position = elements.length ∧ elements.length < value.length) := by
  have bounds := le_lengths_of_held_before before
  constructor
  · intro ⟨unheld, reached⟩
    by_cases inElements : position < elements.length
    · by_cases inValue : position < value.length
      · exact Or.inl ⟨inElements, inValue, unheld⟩
      · exact Or.inr (Or.inl (by omega))
    · exact Or.inr (Or.inr (by omega))
  · rintro (⟨inElements, _inValue, unheld⟩ | ⟨atEnd, short⟩ | ⟨atEnd, long⟩)
    · exact ⟨unheld, Or.inl inElements⟩
    · refine ⟨?_, Or.inl (by omega)⟩
      intro held
      have inValue := held.lt_value
      omega
    · refine ⟨?_, Or.inr (by omega)⟩
      intro held
      have inElements := held.lt_elements
      omega

private theorem heldAt_congr {other : List Char} (same : value[position]? = other[position]?) :
    HeldAt separators space elements value position ↔
      HeldAt separators space elements other position := by
  unfold HeldAt
  rw [same]

private theorem firstViolation?_of_shared {other : List Char}
    (found : firstViolation? separators space elements value = some position)
    (inElements : position < elements.length)
    (shared : other.take (position + 1) = value.take (position + 1)) :
    firstViolation? separators space elements other = some position := by
  have sameAt : ∀ index ≤ position, value[index]? = other[index]? := by
    intro index upTo
    have inPrefix : index < position + 1 := Nat.lt_succ_of_le upTo
    rw [← List.getElem?_take_of_lt inPrefix, ← shared, List.getElem?_take_of_lt inPrefix]
  obtain ⟨before, unheld, _reached⟩ := firstViolation?_eq_some_iff.mp found
  refine firstViolation?_eq_some_iff.mpr ⟨?_, ?_, Or.inl inElements⟩
  · intro earlier isBefore
    exact (heldAt_congr (sameAt earlier (Nat.le_of_lt isBefore))).mp (before earlier isBefore)
  · exact mt (heldAt_congr (sameAt position (Nat.le_refl position))).mpr unheld

end Reports

namespace Mask

theorem first_violation_reported (mask : Mask) (separators : Separators) (space : Char)
    (value : List Char) :
    let found? := mask.violation? separators space value
    let good := mask.GoodAt separators space value
    (found? = none ↔
        value.length = mask.length ∧ ∀ position < mask.length, good position) ∧
      (∀ position, found? = some position ↔
        (∀ earlier < position, good earlier) ∧
          ((position < mask.length ∧ position < value.length ∧ ¬good position) ∨
            (position = value.length ∧ value.length < mask.length) ∨
            (position = mask.length ∧ mask.length < value.length))) ∧
      ∀ position, found? = some position → position < mask.length → position < value.length →
        ∀ other : List Char, other.take (position + 1) = value.take (position + 1) →
          mask.violation? separators space other = some position := by
  intro found? good
  have goodIff := mask.goodAt_iff_heldAt separators space value
  refine ⟨?_, ?_, ?_⟩
  · have conforms : found? = none ↔ mask.elements.length = value.length ∧
        ∀ position < mask.elements.length,
          HeldAt separators space mask.elements value position :=
      firstViolation?_eq_none_iff_heldAt
    rw [conforms, eq_comm]
    simp only [good, goodIff]
    rfl
  · intro position
    change firstViolation? separators space mask.elements value = some position ↔ _
    simp only [good, goodIff, firstViolation?_eq_some_iff]
    exact and_congr_right unheld_iff_exit
  · intro position found inMask _inValue other shared
    exact firstViolation?_of_shared found inMask shared

/-- The letter in the second slot is reported, however the value goes on. -/
theorem first_violation_reported_second_slot :
    let slot : Element := .typed ⟨.digit, true, .unchanged⟩
    let mask : Mask := ⟨[slot, slot, .literal '-', slot], false⟩
    let value := ['1', 'x', '-', '3']
    let other := ['1', 'x', 'y', 'z', '-']
    mask.violation? {} '_' value = some 1 ∧ (1 < mask.length ∧ 1 < value.length) ∧
      other.take 2 = value.take 2 ∧ ¬mask.GoodAt {} '_' value 1 ∧
      mask.violation? {} '_' other = some 1 := by
  intro slot mask value other
  have found : mask.violation? {} '_' value = some 1 := rfl
  obtain ⟨_conforms, first, stable⟩ := mask.first_violation_reported {} '_' value
  have unsuited : ¬mask.GoodAt {} '_' value 1 := by
    rcases ((first 1).mp found).2 with ⟨_, _, bad⟩ | ⟨atEnd, _⟩ | ⟨atEnd, _⟩
    · exact bad
    · exact absurd atEnd (by decide)
    · exact absurd atEnd (by decide)
  have inMask : 1 < mask.length := by decide
  have inValue : 1 < value.length := by decide
  exact ⟨found, ⟨inMask, inValue⟩, rfl, unsuited, stable 1 found inMask inValue other rfl⟩

end Mask

end InputMask
