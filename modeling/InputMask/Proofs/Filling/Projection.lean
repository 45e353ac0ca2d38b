/-
Applying a mask to formatted values as a projection. If the space placeholder is no fixed
character of the mask, every value is taken to an aligned text, and the aligned texts are
exactly the values that applying leaves alone.
-/
import InputMask.Proofs.Filling.Cutting

namespace InputMask

namespace Layout

/-- A run shows characters of its piece and the placeholder, so it does not hold the character
after it if the piece does not. -/
theorem poured_aligned (rightToLeft : Bool) (space : Char) (layout : Layout)
    (pieces : List (List Char)) (unmarked : space ∉ layout.anchors)
    (greedy : ∀ (index : Nat) (piece : List Char) (c : Char), pieces[index]? = some piece →
      layout.anchors[index]? = some c → c ∉ piece) :
    Aligned layout (poured rightToLeft (·.getD space) layout pieces) := by
  induction layout using runInduction generalizing pieces with
  | last width => rw [aligned_run, poured_run, packed_length]
  | anchor width c layout ih =>
      rw [anchors_anchor] at unmarked greedy
      rw [aligned_anchor, poured_anchor]
      refine ⟨_, _, rfl, packed_length _ _ _ _, ?_, ?_⟩
      · intro held
        rcases mem_packed held with isSpace | inPiece
        · exact unmarked (isSpace ▸ List.mem_cons_self)
        · cases pieces with
          | nil => cases inPiece
          | cons piece rest => exact greedy 0 piece c rfl rfl inPiece
      · apply ih pieces.tail (fun member => unmarked (List.mem_cons_of_mem c member))
        intro index piece d atPiece atAnchor
        rw [List.getElem?_tail] at atPiece
        exact greedy (index + 1) piece d atPiece atAnchor

private theorem poured_pieces_aligned (rightToLeft : Bool) (space : Char) (layout : Layout)
    (value : List Char) (unmarked : space ∉ layout.anchors) :
    Aligned layout (poured rightToLeft (·.getD space) layout (layout.pieces value)) := by
  apply poured_aligned rightToLeft space layout _ unmarked
  unfold pieces
  cases admits layout value with
  | true => exact (Text.cutEach_cutting layout.anchors value).greedy
  | false =>
      intro index piece c atPiece
      cases atPiece

/-- Cutting an aligned text meets every fixed character where it stands, and every run is full. -/
theorem poured_of_aligned (rightToLeft : Bool) (space : Char) (layout : Layout)
    (text : List Char) (aligned : Aligned layout text) :
    poured rightToLeft (·.getD space) layout (Text.cutEach layout.anchors text) = text := by
  induction layout using runInduction generalizing text with
  | last width =>
      have sameLength := (aligned_run width text).mp aligned
      subst width
      rw [poured_run, anchors_run]
      exact packed_of_length_eq rightToLeft space text
  | anchor width c layout ih =>
      obtain ⟨front, later, parts, frontLength, absent, rest⟩ :=
        (aligned_anchor width c layout text).mp aligned
      subst width
      have cut := (Text.cutAt?_eq_some_iff c text front later).mpr ⟨parts, absent⟩
      rw [poured_anchor, anchors_anchor, Text.cutEach, cut, parts]
      change packed rightToLeft space front.length front ++
        c :: poured rightToLeft (·.getD space) layout (Text.cutEach layout.anchors later) = _
      rw [packed_of_length_eq, ih later rest]

end Layout

namespace Mask

private theorem space_not_mem_anchors (mask : Mask) (separators : Separators) (space : Char)
    (unmarked : ∀ element ∈ mask.elements, element.fixed? separators ≠ some space) :
    space ∉ (mask.layout separators).anchors := by
  intro member
  rw [Layout.mem_anchors] at member
  obtain ⟨element, inMask, shown⟩ := List.mem_map.mp member
  exact unmarked element inMask shown

theorem apply_formatted_aligned (mask : Mask) (separators : Separators) (space : Char)
    (value : List Char)
    (unmarked : ∀ element ∈ mask.elements, element.fixed? separators ≠ some space) :
    (mask.layout separators).Aligned (mask.apply separators true space value) := by
  rw [apply_formatted]
  exact Layout.poured_pieces_aligned _ _ _ _
    (mask.space_not_mem_anchors separators space unmarked)

theorem apply_formatted_of_aligned (mask : Mask) (separators : Separators) (space : Char)
    (text : List Char) (aligned : (mask.layout separators).Aligned text) :
    mask.apply separators true space text = text := by
  rw [apply_formatted, aligned.toCarries.pieces_eq]
  exact Layout.poured_of_aligned _ _ _ _ aligned

theorem apply_is_projection (mask : Mask) (separators : Separators) (space : Char)
    (value : List Char)
    (unmarked : ∀ element ∈ mask.elements, element.fixed? separators ≠ some space) :
    let applied := mask.apply separators true space value
    (mask.layout separators).Aligned applied ∧
      (applied = value ↔ (mask.layout separators).Aligned value) ∧
      mask.apply separators true space applied = applied := by
  intro applied
  have aligned := mask.apply_formatted_aligned separators space value unmarked
  refine ⟨aligned, ?_, mask.apply_formatted_of_aligned separators space applied aligned⟩
  constructor
  · intro same
    rw [← same]
    exact aligned
  · intro valueAligned
    exact mask.apply_formatted_of_aligned separators space value valueAligned

/-- A dash too many takes the last slot, and stays there from then on. -/
theorem apply_is_projection_doubled_dash :
    let mask : Mask :=
      ⟨[.typed ⟨.digit, true, .unchanged⟩, .literal '-', .typed ⟨.digit, true, .unchanged⟩], false⟩
    mask.apply {} true '_' ['1', '-', '-', '2'] = ['1', '-', '-'] ∧
      mask.apply {} true '_' ['1', '-', '-'] = ['1', '-', '-'] := by
  intro mask
  have projected := mask.apply_is_projection {} '_' ['1', '-', '-', '2'] (by decide)
  exact ⟨by decide, projected.2.2⟩

end Mask

end InputMask
