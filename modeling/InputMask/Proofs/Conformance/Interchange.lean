/-
Masks that can be used in each other's place. Filling sees the edge from which a mask is filled
and, at each position, the fixed character or that there is none. Checking sees besides which
slots must be filled and which characters they accept.

So it makes no difference to any result what kind of element shows a fixed character, or in which
case region a slot lies.
-/
import Mathlib.Data.List.Forall2
import InputMask.Conformance
import InputMask.Proofs.Filling.Raw

namespace InputMask

namespace Element

structure Alike (separators others : Separators) (left right : Element) : Prop where
  shown : left.fixed? separators = right.fixed? others
  required : left.isRequired = right.isRequired
  accepted : ∀ c, left.accepts c = right.accepts c

theorem Alike.holds_eq {separators others : Separators} {left right : Element}
    (alike : Alike separators others left right) (space c : Char) :
    left.holds separators space c = right.holds others space c := by
  unfold holds isBlank
  rw [alike.shown, alike.required, alike.accepted]

def settled (separators : Separators) : Element → Element
  | dateSeparator => literal separators.date
  | timeSeparator => literal separators.time
  | element => element

theorem alike_settled (separators others : Separators) (element : Element) :
    Alike separators others element (element.settled separators) := by
  cases element <;> exact ⟨rfl, rfl, fun _ => rfl⟩

def recased (shift : CaseShift) : Element → Element
  | typed slot => typed { slot with shift := shift }
  | element => element

theorem alike_recased (separators : Separators) (shift : CaseShift) (element : Element) :
    Alike separators separators element (element.recased shift) := by
  cases element <;> exact ⟨rfl, rfl, fun _ => rfl⟩

end Element

theorem firstViolation?_congr {separators others : Separators} {left right : List Element}
    (alike : List.Forall₂ (Element.Alike separators others) left right) (space : Char)
    (value : List Char) :
    firstViolation? separators space left value = firstViolation? others space right value := by
  induction alike generalizing value with
  | nil => cases value <;> rfl
  | cons here _beyond ih =>
      cases value with
      | nil => rfl
      | cons c later => rw [firstViolation?, firstViolation?, here.holds_eq, ih]

namespace Mask

theorem layout_eq_iff (separators others : Separators) (left right : Mask) :
    left.layout separators = right.layout others ↔
      List.Forall₂ (fun element other => element.fixed? separators = other.fixed? others)
        left.elements right.elements := by
  rw [layout, layout, ← List.forall₂_eq_eq_eq, List.forall₂_map_left_iff,
    List.forall₂_map_right_iff]

structure SameFilling (separators others : Separators) (left right : Mask) : Prop where
  applied : ∀ formatted space value,
    left.apply separators formatted space value = right.apply others formatted space value
  removed : ∀ formatted value,
    left.remove separators formatted value = right.remove others formatted value

structure SameResults (separators others : Separators) (left right : Mask) : Prop
    extends SameFilling separators others left right where
  checked : ∀ space value,
    left.violation? separators space value = right.violation? others space value

theorem SameFilling.of_layout_eq {separators others : Separators} {left right : Mask}
    (sameEdge : left.rightToLeft = right.rightToLeft)
    (sameLayout : left.layout separators = right.layout others) :
    SameFilling separators others left right := by
  -- A raw value goes by the kinds of the elements, which the layouts do not hold.
  have samePositions : dataPositions 0 left.elements = dataPositions 0 right.elements := by
    rw [dataPositions_eq_gaps separators, dataPositions_eq_gaps others]
    exact congrArg (Layout.gaps 0) sameLayout
  have sameFill : ∀ formatted seed value,
      left.fill separators formatted seed value = right.fill others formatted seed value := by
    intro formatted seed value
    rw [fill, fill, placements, placements, sameEdge, sameLayout, samePositions]
  constructor
  · intro formatted space value
    rw [apply, apply, sameLayout, sameFill]
  · intro formatted value
    rw [remove, remove, sameLayout, sameFill]

theorem SameResults.of_alike {separators others : Separators} {left right : Mask}
    (sameEdge : left.rightToLeft = right.rightToLeft)
    (alike : List.Forall₂ (Element.Alike separators others) left.elements right.elements) :
    SameResults separators others left right := by
  have sameLayout := (layout_eq_iff separators others left right).mpr
    (alike.imp fun _ _ same => same.shown)
  exact
    { toSameFilling := SameFilling.of_layout_eq sameEdge sameLayout
      checked := firstViolation?_congr alike }

def settled (mask : Mask) (separators : Separators) : Mask :=
  { mask with elements := mask.elements.map (Element.settled separators) }

def recased (mask : Mask) (shifts : Nat → CaseShift) : Mask :=
  { mask with
    elements := mask.elements.mapIdx (fun position => Element.recased (shifts position)) }

theorem sameResults_settled (mask : Mask) (separators others : Separators) :
    SameResults separators others mask (mask.settled separators) := by
  refine SameResults.of_alike rfl ?_
  rw [settled, List.forall₂_map_right_iff, List.forall₂_same]
  exact fun element _member => element.alike_settled separators others

theorem sameResults_recased (mask : Mask) (separators : Separators)
    (shifts : Nat → CaseShift) :
    SameResults separators separators mask (mask.recased shifts) := by
  refine SameResults.of_alike rfl ?_
  obtain ⟨elements, rightToLeft⟩ := mask
  unfold recased
  dsimp only
  induction elements generalizing shifts with
  | nil => exact .nil
  | cons element rest ih =>
      rw [List.mapIdx_cons]
      exact .cons (element.alike_recased separators (shifts 0))
        (ih (fun index => shifts (index + 1)))

/-- The other mask may be of other elements and under other separators, as long as it shows the
same. A mask without separators in it shows the same wherever it is used. -/
theorem results_from_skeleton (mask : Mask) (separators : Separators) :
    (∀ (other : Mask) (others : Separators), mask.rightToLeft = other.rightToLeft →
      mask.layout separators = other.layout others →
        SameFilling separators others mask other ∧
          (List.Forall₂ (fun left right => left.isRequired = right.isRequired ∧
              ∀ c, left.accepts c = right.accepts c) mask.elements other.elements →
            SameResults separators others mask other)) ∧
      (∀ others, SameResults separators others mask (mask.settled separators)) ∧
      ∀ shifts, SameResults separators separators mask (mask.recased shifts) := by
  refine ⟨?_, mask.sameResults_settled separators, mask.sameResults_recased separators⟩
  intro other others sameEdge sameLayout
  refine ⟨SameFilling.of_layout_eq sameEdge sameLayout, ?_⟩
  intro sameDemands
  have shown := (layout_eq_iff separators others mask other).mp sameLayout
  refine SameResults.of_alike sameEdge (shown.mp ?_ sameDemands)
  intro left right same demands
  exact ⟨same, demands.1, demands.2⟩

/-- An optional digit and an optional set of the digits ask for the same, and a date sign is a
literal where it shows a dot. -/
theorem results_from_skeleton_digit_set :
    let digit : Element := .typed ⟨.digit, false, .upper⟩
    let listed : Element := .charSet ⟨CharSet.empty.insertRange '0' '9', false, true⟩
    let mask : Mask := ⟨[digit, .dateSeparator, digit], false⟩
    let other : Mask := ⟨[listed, .literal '.', listed], false⟩
    mask.rightToLeft = other.rightToLeft ∧ mask.layout ⟨'.', ':'⟩ = other.layout {} ∧
      SameResults ⟨'.', ':'⟩ {} mask other := by
  intro digit listed mask other
  have sameDemands : digit.isRequired = listed.isRequired ∧
      ∀ c, digit.accepts c = listed.accepts c := by
    apply And.intro rfl
    intro c
    have inRange : c ∈ CharSet.empty.insertRange '0' '9' ↔ c.isDigit = true := by
      rw [CharSet.mem_insertRange]
      simp [CharSet.mem_def, CharSet.empty, Char.isDigit, Char.le_def]
    change c.isDigit = (decide (c ∈ CharSet.empty.insertRange '0' '9') != false)
    simp [inRange]
  have skeleton := (mask.results_from_skeleton ⟨'.', ':'⟩).1 other {} rfl rfl
  exact ⟨rfl, rfl, skeleton.2 (.cons sameDemands (.cons ⟨rfl, fun _ => rfl⟩
    (.cons sameDemands .nil)))⟩

end Mask

end InputMask
