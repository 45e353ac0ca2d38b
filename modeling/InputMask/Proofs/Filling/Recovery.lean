/-
Removing a mask from the formatted text of a raw value. The text carries the mask, so what is
lost depends on alignment alone: the data comes back whole if the text is aligned, and otherwise
the run that is cut too early comes back too short.
-/
import InputMask.Proofs.Filling.Cutting
import InputMask.Proofs.Filling.Raw

namespace InputMask

namespace Layout

private theorem collected_length_le (rightToLeft : Bool) (layout : Layout)
    (pieces : List (List Char)) :
    (collected rightToLeft layout pieces).length ≤ layout.count none := by
  induction layout using runInduction generalizing pieces with
  | last width =>
      cases pieces with
      | nil =>
          rw [collected_nil]
          exact Nat.zero_le _
      | cons piece rest =>
          rw [collected_run, kept_length, count_none_run]
          exact Nat.min_le_right _ _
  | anchor width c layout ih =>
      cases pieces with
      | nil =>
          rw [collected_nil]
          exact Nat.zero_le _
      | cons piece rest =>
          have later := ih rest
          rw [collected_anchor, List.length_append, kept_length, count_none_anchor]
          omega

theorem collected_of_aligned (rightToLeft : Bool) (layout : Layout) (text : List Char)
    (aligned : Aligned layout text) :
    collected rightToLeft layout (Text.cutEach layout.anchors text) = layout.data text := by
  induction layout using runInduction generalizing text with
  | last width =>
      have sameLength := (aligned_run width text).mp aligned
      subst width
      rw [anchors_run, data_run]
      exact (collected_run _ _ _ _).trans
        (kept_of_length_le rightToLeft text.length text (Nat.le_refl _))
  | anchor width c layout ih =>
      obtain ⟨front, later, parts, frontLength, absent, rest⟩ :=
        (aligned_anchor width c layout text).mp aligned
      subst width
      have cut := (Text.cutAt?_eq_some_iff c text front later).mpr ⟨parts, absent⟩
      rw [anchors_anchor, Text.cutEach, cut, parts, data_append]
      change collected rightToLeft _ (front :: Text.cutEach layout.anchors later) =
        front ++ layout.data later
      rw [collected_anchor, ih later rest, kept_of_length_le _ _ _ (Nat.le_refl _)]

/-- The first run that holds the character after it is cut short, and no later run can make up
for what it loses. -/
private theorem collected_length_lt (rightToLeft : Bool) (layout : Layout) (text : List Char)
    (carries : Carries layout text) (unaligned : ¬Aligned layout text) :
    (collected rightToLeft layout (Text.cutEach layout.anchors text)).length <
      layout.count none := by
  induction layout using runInduction generalizing text with
  | last width =>
      have sameLength := (carries_run width text).mp carries
      exact absurd ((aligned_run width text).mpr sameLength) unaligned
  | anchor width c layout ih =>
      obtain ⟨front, later, parts, frontLength, rest⟩ :=
        (carries_anchor width c layout text).mp carries
      rw [anchors_anchor, Text.cutEach, count_none_anchor]
      by_cases mistaken : c ∈ front
      · obtain ⟨piece, others, frontParts, absent⟩ := List.eq_append_cons_of_mem mistaken
        have joined : text = piece ++ c :: (others ++ c :: later) := by
          rw [parts, frontParts, List.append_assoc, List.cons_append]
        have cut := (Text.cutAt?_eq_some_iff c text piece _).mpr ⟨joined, absent⟩
        have short : piece.length < width := by
          rw [← frontLength, frontParts, List.length_append, List.length_cons]
          omega
        have laterBound := collected_length_le rightToLeft layout
          (Text.cutEach layout.anchors (others ++ c :: later))
        rw [cut]
        change (collected rightToLeft _ (piece :: Text.cutEach layout.anchors _)).length < _
        rw [collected_anchor, List.length_append, kept_length]
        omega
      · have cut := (Text.cutAt?_eq_some_iff c text front later).mpr ⟨parts, mistaken⟩
        have laterUnaligned : ¬Aligned layout later := by
          intro aligned
          exact unaligned ((aligned_anchor width c layout text).mpr
            ⟨front, later, parts, frontLength, mistaken, aligned⟩)
        have laterBound := ih later rest laterUnaligned
        rw [cut]
        change (collected rightToLeft _ (front :: Text.cutEach layout.anchors later)).length < _
        rw [collected_anchor, List.length_append, kept_length]
        omega

/-- In a text that carries the layout, a slot may be held against the fixed character itself. -/
theorem Carries.aligned_iff {layout : Layout} {text : List Char} (carries : Carries layout text) :
    Aligned layout text ↔ ∀ (start stop : Nat) (c : Char), layout[start]? = some none →
      layout.NextFixed start stop c → text[start]? ≠ text[stop]? := by
  constructor
  · intro aligned start stop c slot next
    rw [carries.shows stop c next.fixed]
    exact aligned.clear start stop c slot next
  · intro clear
    refine ⟨carries, ?_⟩
    intro start stop c slot next
    rw [← carries.shows stop c next.fixed]
    exact clear start stop c slot next

end Layout

namespace Mask

theorem remove_formatted_of_aligned (mask : Mask) (separators : Separators) (text : List Char)
    (aligned : (mask.layout separators).Aligned text) :
    mask.remove separators true text = (mask.layout separators).data text := by
  rw [remove_formatted, aligned.toCarries.pieces_eq]
  exact Layout.collected_of_aligned _ _ _ aligned

theorem remove_formatted_length_lt (mask : Mask) (separators : Separators) (text : List Char)
    (carries : (mask.layout separators).Carries text)
    (unaligned : ¬(mask.layout separators).Aligned text) :
    (mask.remove separators true text).length < mask.slotCount := by
  rw [remove_formatted, carries.pieces_eq, ← mask.layout_count_none separators]
  exact Layout.collected_length_lt _ _ _ carries unaligned

theorem raw_data_recovered_iff (mask : Mask) (separators : Separators) (space : Char)
    (value : List Char) :
    let layout := mask.layout separators
    let text := mask.apply separators false space value
    let recovered := mask.remove separators true text
    let clear := ∀ (start stop : Nat) (c : Char), layout[start]? = some none →
      layout.NextFixed start stop c → text[start]? ≠ text[stop]?
    mask.remove separators false value = packed mask.rightToLeft ' ' mask.slotCount value ∧
      (recovered = mask.remove separators false value ↔ clear) ∧
      (¬clear → recovered.length < mask.slotCount) := by
  intro layout text recovered clear
  obtain ⟨carries, spelled⟩ := mask.apply_raw separators space value
  have alignedIff : layout.Aligned text ↔ clear := carries.aligned_iff
  have lost : ¬clear → recovered.length < mask.slotCount := by
    intro unclear
    exact mask.remove_formatted_length_lt separators text carries
      (fun aligned => unclear (alignedIff.mp aligned))
  refine ⟨mask.remove_raw separators value, ?_, lost⟩
  constructor
  · intro same
    apply Classical.byContradiction
    intro unclear
    have short := lost unclear
    rw [same, mask.remove_raw separators value, packed_length] at short
    exact Nat.lt_irrefl _ short
  · intro isClear
    exact (mask.remove_formatted_of_aligned separators text (alignedIff.mpr isClear)).trans spelled

end Mask

end InputMask
