/-
Checking a text that applying a mask has made. Such a text carries the mask, so it has the right
length and the fixed characters are in their positions; what can be wrong with it is the data.

A raw value is laid against one edge of the data slots. Whether its text conforms is then a
question about the slots that it covers, each with its character, and about the slots that it
leaves to the spaces.
-/
import InputMask.Proofs.Conformance.Positions
import InputMask.Proofs.Filling.Seeds

namespace InputMask

/-! ### A run and what is packed into it -/

section Covering

variable {α β : Type} {R : α → β → Prop}

/-- The slots that a text of the given width does not reach, packed against the edge. -/
def uncovered (rightToLeft : Bool) (width : Nat) (slots : List α) : List α :=
  if rightToLeft then slots.take (slots.length - width) else slots.drop width

private theorem uncovered_length (rightToLeft : Bool) (width : Nat) (slots : List α) :
    (uncovered rightToLeft width slots).length = slots.length - width := by
  cases rightToLeft with
  | false => exact List.length_drop
  | true => exact List.length_take_of_le (Nat.sub_le _ _)

private theorem kept_append_uncovered (width : Nat) (slots : List α) :
    kept false width slots ++ uncovered false width slots = slots := by
  rcases Nat.le_total slots.length width with short | long
  · simp [kept, uncovered, Nat.min_eq_left short, List.drop_of_length_le short]
  · simp [kept, uncovered, Nat.min_eq_right long]

private theorem uncovered_append_kept (width : Nat) (slots : List α) :
    uncovered true width slots ++ kept true width slots = slots := by
  have skipped : slots.length - min slots.length width = slots.length - width := by omega
  simp [kept, uncovered, skipped]

private theorem forall₂_append_iff {left : List α} {right : List β}
    (sameLength : left.length = right.length) (leftRest : List α) (rightRest : List β) :
    List.Forall₂ R (left ++ leftRest) (right ++ rightRest) ↔
      List.Forall₂ R left right ∧ List.Forall₂ R leftRest rightRest := by
  constructor
  · intro related
    have front := List.forall₂_take left.length related
    have back := List.forall₂_drop left.length related
    rw [List.take_left, List.take_left' sameLength.symm] at front
    rw [List.drop_left, List.drop_left' sameLength.symm] at back
    exact ⟨front, back⟩
  · intro ⟨front, back⟩
    exact List.rel_append front back

private theorem forall₂_replicate_iff {left : List α} {count : Nat}
    (sameLength : left.length = count)
    (filler : β) :
    List.Forall₂ R left (List.replicate count filler) ↔ ∀ x ∈ left, R x filler := by
  rw [← sameLength, ← List.map_const', List.forall₂_map_right_iff, List.forall₂_same]

/-- Slots and text are packed against the same edge, so the slots that are reached meet the
characters that are kept. -/
private theorem forall₂_packed_iff (rightToLeft : Bool) (filler : β) (slots : List α)
    (text : List β) :
    List.Forall₂ R slots (packed rightToLeft filler slots.length text) ↔
      List.Forall₂ R (kept rightToLeft text.length slots) (kept rightToLeft slots.length text) ∧
        ∀ slot ∈ uncovered rightToLeft text.length slots, R slot filler := by
  let fillers := List.replicate (slots.length - min text.length slots.length) filler
  have keptLength : (kept rightToLeft text.length slots).length =
      (kept rightToLeft slots.length text).length := by
    rw [kept_length, kept_length, Nat.min_comm]
  have restLength : (uncovered rightToLeft text.length slots).length =
      slots.length - min text.length slots.length := by
    rw [uncovered_length]
    omega
  cases rightToLeft with
  | false =>
      have split := forall₂_append_iff (R := R) keptLength
        (uncovered false text.length slots) fillers
      rwa [kept_append_uncovered, forall₂_replicate_iff restLength filler] at split
  | true =>
      have fillersLength : (uncovered true text.length slots).length = fillers.length :=
        restLength.trans List.length_replicate.symm
      have split := forall₂_append_iff (R := R) fillersLength (kept true text.length slots)
        (kept true slots.length text)
      rwa [uncovered_append_kept, forall₂_replicate_iff restLength filler, and_comm] at split

end Covering

/-! ### Data slots -/

namespace Element

def Unfit (space : Char) (element : Element) (c : Char) : Prop :=
  let blank := c = ' ' ∨ (c = space ∧ element.accepts c = false)
  (blank ∧ element.isRequired = true) ∨ (¬blank ∧ element.accepts c = false)

theorem holds_iff_not_unfit {separators : Separators} {element : Element}
    (data : element.fixed? separators = none) (space c : Char) :
    element.holds separators space c = true ↔ ¬element.Unfit space c := by
  unfold holds Unfit
  rw [data]
  by_cases blank : c = ' ' ∨ (c = space ∧ element.accepts c = false)
  · have isBlank : element.isBlank space c = true := by simpa [Element.isBlank] using blank
    simp [isBlank, blank]
  · have notBlank : element.isBlank space c = false := by
      rw [← Bool.not_eq_true]
      exact fun isBlank => blank (by simpa [Element.isBlank] using isBlank)
    simp [notBlank, blank]

private theorem unfit_space_iff (space : Char) (element : Element) :
    element.Unfit space ' ' ↔ element.isRequired = true := by
  simp [Unfit]

end Element

def dataElements (elements : List Element) : List Element :=
  elements.filter (fun element => !element.isFixed)

private theorem forall₂_holds_iff {separators : Separators} {elements : List Element}
    {text : List Char}
    (carries : Layout.Carries (elements.map (Element.fixed? separators)) text) (space : Char) :
    List.Forall₂ (fun element c => element.holds separators space c = true) elements text ↔
      List.Forall₂ (fun element c => ¬element.Unfit space c) (dataElements elements)
        (Layout.data (elements.map (Element.fixed? separators)) text) := by
  unfold dataElements
  induction elements generalizing text with
  | nil =>
      have empty := List.eq_nil_of_length_eq_zero carries.length_eq
      subst text
      simp [Layout.data]
  | cons element rest ih =>
      cases text with
      | nil => exact nomatch carries.length_eq
      | cons c later =>
          rw [List.forall₂_cons, ih carries.tail]
          cases shown : element.fixed? separators with
          | none =>
              have data := (element.fixed?_eq_none_iff separators).mp shown
              rw [Element.holds_iff_not_unfit shown, List.filter_cons, data, List.map_cons, shown]
              simp [Layout.data]
          | some fixed =>
              have notData : element.isFixed = true := by
                rw [← element.fixed?_isSome separators, shown, Option.isSome_some]
              have same := carries.shows 0 fixed (congrArg some shown)
              rw [Element.holds_fixed_iff shown, Option.some.inj same, List.filter_cons, notData,
                List.map_cons, shown]
              simp [Layout.data]

namespace Mask

/-- There is a data slot at the position, and it may not show its character of the text. -/
def AtFault (mask : Mask) (space : Char) (text : List Char) (position : Nat) : Prop :=
  ∃ element c, mask.elements[position]? = some element ∧ element.isFixed = false ∧
    text[position]? = some c ∧ element.Unfit space c

variable {mask : Mask} {separators : Separators} {space : Char} {text : List Char}

theorem atFault_iff (carries : (mask.layout separators).Carries text) (position : Nat) :
    mask.AtFault space text position ↔
      ¬HeldAt separators space mask.elements text position ∧ position < mask.length := by
  constructor
  · intro ⟨element, c, atPosition, data, character, unfit⟩
    refine ⟨?_, (List.getElem?_eq_some_iff.mp atPosition).1⟩
    intro held
    have shown := (element.fixed?_eq_none_iff separators).mpr data
    exact (Element.holds_iff_not_unfit shown space c).mp (held.holds atPosition character) unfit
  · intro ⟨unheld, inMask⟩
    have inText : position < text.length := by
      rw [carries.length_eq, mask.layout_length]
      exact inMask
    obtain ⟨element, atPosition⟩ : ∃ element, mask.elements[position]? = some element :=
      ⟨_, List.getElem?_eq_getElem inMask⟩
    obtain ⟨c, character⟩ : ∃ c, text[position]? = some c :=
      ⟨_, List.getElem?_eq_getElem inText⟩
    have fails : ¬element.holds separators space c = true :=
      fun holds => unheld ⟨element, c, atPosition, character, holds⟩
    cases shown : element.fixed? separators with
    | none =>
        have unfit := not_not.mp (mt (Element.holds_iff_not_unfit shown space c).mpr fails)
        exact ⟨element, c, atPosition, (element.fixed?_eq_none_iff separators).mp shown,
          character, unfit⟩
    | some fixed =>
        have fixedAt : (mask.layout separators)[position]? = some (some fixed) := by
          rw [layout, List.getElem?_map, atPosition, Option.map_some, shown]
        have same := carries.shows position fixed fixedAt
        rw [character, Option.some.injEq] at same
        exact absurd ((Element.holds_fixed_iff shown space c).mpr same) fails

theorem heldAt_iff_not_atFault (carries : (mask.layout separators).Carries text) {position : Nat}
    (inMask : position < mask.length) :
    HeldAt separators space mask.elements text position ↔ ¬mask.AtFault space text position := by
  rw [atFault_iff carries, and_iff_left inMask, not_not]

theorem violation?_eq_some_iff (carries : (mask.layout separators).Carries text)
    (position : Nat) :
    mask.violation? separators space text = some position ↔
      mask.AtFault space text position ∧
        ∀ earlier < position, ¬mask.AtFault space text earlier := by
  have sameLength : text.length = mask.length := by rw [carries.length_eq, mask.layout_length]
  rw [violation?, firstViolation?_eq_some_iff, atFault_iff carries, sameLength]
  change _ ∧ _ ∧ (position < mask.length ∨ position < mask.length) ↔ _
  rw [or_self, and_comm]
  refine and_congr_right fun fault => forall₂_congr fun earlier before => ?_
  exact heldAt_iff_not_atFault carries (Nat.lt_trans before fault.2)

theorem violation?_eq_none_iff (carries : (mask.layout separators).Carries text) :
    mask.violation? separators space text = none ↔
      ∀ position, ¬mask.AtFault space text position := by
  have sameLength : mask.elements.length = text.length := by
    rw [carries.length_eq, mask.layout_length]
    rfl
  rw [violation?, firstViolation?_eq_none_iff_heldAt, and_iff_right sameLength]
  constructor
  · intro held position fault
    obtain ⟨unheld, inMask⟩ := (atFault_iff carries position).mp fault
    exact unheld (held position inMask)
  · intro faultless position inMask
    exact (heldAt_iff_not_atFault carries inMask).mpr (faultless position)

/-- For a raw value the slots and the value are laid against the same edge: the slots that the
value covers meet its characters, and the others must not be required. -/
theorem applied_fails_only_in_data (mask : Mask) (separators : Separators) (formatted : Bool)
    (space : Char) (value : List Char) :
    let applied := mask.apply separators formatted space value
    let found? := mask.violation? separators space applied
    let slots := dataElements mask.elements
    (∀ position, found? = some position ↔
        mask.AtFault space applied position ∧
          ∀ earlier < position, ¬mask.AtFault space applied earlier) ∧
      (found? = none ↔ ∀ position, ¬mask.AtFault space applied position) ∧
      (mask.violation? separators space (mask.apply separators false space value) = none ↔
        List.Forall₂ (fun element c => ¬element.Unfit space c)
            (kept mask.rightToLeft value.length slots)
            (kept mask.rightToLeft slots.length value) ∧
          ∀ element ∈ uncovered mask.rightToLeft value.length slots,
            element.isRequired = false) := by
  intro applied found? slots
  have carries := mask.apply_carries separators formatted space value
  refine ⟨violation?_eq_some_iff carries, violation?_eq_none_iff carries, ?_⟩
  obtain ⟨rawCarries, spelled⟩ := mask.apply_raw separators space value
  have count : mask.slotCount = slots.length := List.countP_eq_length_filter
  rw [mask.remove_raw, count] at spelled
  rw [violation?, firstViolation?_eq_none_iff, forall₂_holds_iff rawCarries]
  change List.Forall₂ _ slots ((mask.layout separators).data _) ↔ _
  rw [spelled, forall₂_packed_iff]
  refine and_congr_right fun _covered => forall₂_congr fun element _member => ?_
  rw [Element.unfit_space_iff, Bool.not_eq_true]

end Mask

end InputMask
