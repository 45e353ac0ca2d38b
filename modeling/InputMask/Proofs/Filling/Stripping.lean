/-
Where the characters of a filled line come from, and what removing a mask finds in a text to
which it has just been applied.

A slot shows a character of the value, a fixed character, the placeholder, or a space that
continues a raw value; nothing else is ever written. So a value without the placeholder can be
read back from the applied text: the slots that show the placeholder are those that have received
nothing.
-/
import InputMask.Proofs.Filling.Projection
import InputMask.Proofs.Filling.Recovery
import InputMask.Proofs.Filling.Seeds

namespace InputMask

private theorem Text.mem_of_mem_cutEach {anchors text piece : List Char} {c : Char}
    (cut : piece ∈ cutEach anchors text) (member : c ∈ piece) : c ∈ text := by
  induction anchors generalizing text with
  | nil =>
      have whole := List.mem_singleton.mp cut
      rwa [whole] at member
  | cons d anchors ih =>
      unfold cutEach at cut
      cases found : cutAt? d text with
      | none =>
          rw [found] at cut
          have whole := List.mem_singleton.mp cut
          rwa [whole] at member
      | some parts =>
          obtain ⟨front, later⟩ := parts
          obtain ⟨joined, _absent⟩ := (cutAt?_eq_some_iff d text front later).mp found
          rw [found] at cut
          rw [joined]
          rcases List.mem_cons.mp cut with first | beyond
          · rw [first] at member
            exact List.mem_append_left _ member
          · exact List.mem_append_right _ (List.mem_cons_of_mem d (ih beyond))

namespace Line

private theorem mem_text {line : Line} {c : Char} : c ∈ line.text ↔ some c ∈ line := by
  simp [text]

private theorem mem_text_onto {front back : Line} {c : Char} (member : c ∈ text (front.onto back)) :
    c ∈ front.text ∨ c ∈ back.text := by
  rw [mem_text, onto, ← List.map_uncurry_zip_eq_zipWith] at member
  obtain ⟨⟨slot, seed⟩, inZip, shown⟩ := List.mem_map.mp member
  have inside := List.of_mem_zip inZip
  rw [mem_text, mem_text]
  rcases Option.or_eq_some_iff.mp shown with same | ⟨_gap, same⟩
  · exact Or.inl (same ▸ inside.1)
  · exact Or.inr (same ▸ inside.2)

end Line

namespace Layout

private theorem mem_text_template {layout : Layout} {space c : Char}
    (member : c ∈ Line.text (layout.template space)) : c = space ∨ some c ∈ layout := by
  rw [Line.mem_text, template] at member
  obtain ⟨fixed?, inLayout, shown⟩ := List.mem_map.mp member
  cases fixed? with
  | none => exact Or.inl (Option.some.inj shown).symm
  | some d => exact Or.inr (shown ▸ inLayout)

private theorem mem_of_mem_collected {rightToLeft : Bool} {layout : Layout}
    {pieces : List (List Char)}
    {c : Char} (member : c ∈ collected rightToLeft layout pieces) :
    ∃ piece ∈ pieces, c ∈ piece := by
  rw [collected, ← List.map_uncurry_zip_eq_zipWith] at member
  obtain ⟨run, inRuns, inRun⟩ := List.mem_flatten.mp member
  obtain ⟨⟨width, piece⟩, inZip, same⟩ := List.mem_map.mp inRuns
  subst run
  exact ⟨piece, (List.of_mem_zip inZip).2, mem_of_mem_kept inRun⟩

/-- What a line has received can be read off the data slots, if the placeholder is not part
of it. -/
theorem Spared.filter_data {layout : Layout} {line : Line} (spared : Spared layout line)
    {space : Char} (absent : space ∉ line.text) :
    (layout.data (Line.text (Line.onto line (layout.template space)))).filter (· != space) =
      line.text := by
  induction spared with
  | nil => rfl
  | @cons fixed? slot layout line here _beyond ih =>
      rw [text_onto_template_cons]
      cases fixed? with
      | some c =>
          have gap : slot = none := here nofun
          subst slot
          exact ih absent
      | none =>
          cases slot with
          | none =>
              rw [data, Option.getD_none, Option.getD_none, List.filter_cons_of_neg (by simp)]
              exact ih absent
          | some d =>
              obtain ⟨different, absentBeyond⟩ := not_or.mp (mt List.mem_cons.mpr absent)
              have kept : (d != space) = true := bne_iff_ne.mpr (Ne.symm different)
              rw [data, Option.getD_some, List.filter_cons, if_pos kept, ih absentBeyond]
              rfl

end Layout

namespace Mask

/-- Removing invents nothing but the spaces that continue a raw value. -/
theorem mem_of_mem_remove {mask : Mask} {separators : Separators} {formatted : Bool}
    {value : List Char} {c : Char} (member : c ∈ mask.remove separators formatted value) :
    c ∈ value ∨ (formatted = false ∧ c = ' ') := by
  cases formatted with
  | true =>
      rw [remove_formatted] at member
      obtain ⟨piece, inPieces, inPiece⟩ := Layout.mem_of_mem_collected member
      left
      unfold Layout.pieces at inPieces
      cases admitted : (mask.layout separators).admits value with
      | true =>
          rw [admitted] at inPieces
          exact Text.mem_of_mem_cutEach inPieces inPiece
      | false =>
          rw [admitted] at inPieces
          cases inPieces
  | false =>
      rw [remove_raw] at member
      rcases mem_packed member with isSpace | inValue
      · exact Or.inr ⟨rfl, isSpace⟩
      · exact Or.inl inValue

theorem mem_of_mem_apply {mask : Mask} {separators : Separators} {formatted : Bool}
    {space : Char} {value : List Char} {c : Char}
    (member : c ∈ mask.apply separators formatted space value) :
    c ∈ mask.remove separators formatted value ∨ c = space ∨ some c ∈ mask.layout separators := by
  rw [apply_eq_received_onto] at member
  rcases Line.mem_text_onto member with received | seeded
  · exact Or.inl received
  · exact Or.inr (Layout.mem_text_template seeded)

theorem removed_from_applied (mask : Mask) (separators : Separators) (space : Char)
    (value : List Char)
    (unmarked : ∀ element ∈ mask.elements, element.fixed? separators ≠ some space) :
    let layout := mask.layout separators
    let applied := mask.apply separators true space value
    let removed := mask.remove separators true applied
    removed.length = mask.slotCount ∧ removed = layout.data applied ∧
      (space ∉ value →
        removed.filter (· != space) = mask.remove separators true value) := by
  intro layout applied removed
  have aligned : layout.Aligned applied :=
    mask.apply_formatted_aligned separators space value unmarked
  have found : removed = layout.data applied :=
    mask.remove_formatted_of_aligned separators applied aligned
  refine ⟨?_, found, ?_⟩
  · rw [found, layout.data_length applied aligned.length_eq, mask.layout_count_none]
  · intro absent
    have spared := mask.received_spared separators true value
    have unreceived : space ∉ mask.remove separators true value := by
      intro member
      rcases mem_of_mem_remove member with inValue | ⟨raw, _isSpace⟩
      · exact absent inValue
      · cases raw
    rw [found, show applied = _ from mask.apply_eq_received_onto separators true space value]
    exact spared.filter_data unreceived

/-- The value lacks the dash, so all of it goes in front and is packed towards it. -/
theorem removed_from_applied_missing_dash :
    let slot : Element := .typed ⟨.digit, false, .unchanged⟩
    let mask : Mask := ⟨[slot, slot, .literal '-', slot, slot], true⟩
    let applied := mask.apply {} true '_' ['7']
    applied = ['_', '7', '-', '_', '_'] ∧ mask.remove {} true applied = ['_', '7', '_', '_'] ∧
      (mask.remove {} true applied).filter (· != '_') = mask.remove {} true ['7'] := by
  intro slot mask applied
  have removed := mask.removed_from_applied {} '_' ['7'] (by decide)
  exact ⟨by decide, removed.2.1, removed.2.2 (by decide)⟩

end Mask

end InputMask
