/-
Raw values seen from both ends. Filling aligns a raw value with one edge of the data slots, so a
mask that is turned around, elements and edge together, does to the reversed value what the mask
does to the value itself. What is written depends on the slots and the value alone: the fixed
characters and the data determine the text, and the space placeholder shows nowhere.
-/
import InputMask.Proofs.Filling.Raw

namespace InputMask

private theorem packed_reverse {α : Type} (rightToLeft : Bool) (filler : α) (width : Nat)
    (text : List α) :
    packed (!rightToLeft) filler width text.reverse =
      (packed rightToLeft filler width text).reverse := by
  rw [packed_eq, packed_eq]
  cases rightToLeft with
  | false =>
      have cut : text.length - (text.length - width) = min width text.length := by omega
      simp [List.drop_reverse, cut]
  | true => simp [List.take_reverse]

namespace Layout

private theorem data_reverse (layout : Layout) (text : List Char)
    (sameLength : text.length = layout.length) :
    data layout.reverse text.reverse = (data layout text).reverse := by
  induction layout generalizing text with
  | nil => cases text <;> rfl
  | cons slot rest ih =>
      cases text with
      | nil => cases sameLength
      | cons d later =>
          have restLength : later.length = rest.length := Nat.succ.inj sameLength
          have reversedLength : later.reverse.length = rest.reverse.length := by
            rw [List.length_reverse, List.length_reverse, restLength]
          rw [List.reverse_cons, List.reverse_cons, data_parts _ _ _ _ reversedLength,
            ih later restLength]
          cases slot with
          | none => exact List.reverse_cons.symm
          | some c => exact List.append_nil _

namespace Carries

theorem reverse {layout : Layout} {text : List Char} (carries : Carries layout text) :
    Carries layout.reverse text.reverse := by
  refine ⟨by rw [List.length_reverse, List.length_reverse, carries.length_eq], ?_⟩
  intro position c fixed
  obtain ⟨inside, _same⟩ := List.getElem?_eq_some_iff.mp fixed
  rw [List.length_reverse] at inside
  rw [List.getElem?_reverse inside] at fixed
  rw [List.getElem?_reverse (by rw [carries.length_eq]; exact inside), carries.length_eq]
  exact carries.shows _ c fixed

/-- The fixed characters and the data make up the text. -/
theorem eq_of_data_eq {layout : Layout} {left right : List Char}
    (leftCarries : Carries layout left) (rightCarries : Carries layout right)
    (sameData : layout.data left = layout.data right) : left = right := by
  induction layout generalizing left right with
  | nil =>
      rw [List.eq_nil_of_length_eq_zero leftCarries.length_eq,
        List.eq_nil_of_length_eq_zero rightCarries.length_eq]
  | cons slot rest ih =>
      cases left with
      | nil => cases leftCarries.length_eq
      | cons d left =>
          cases right with
          | nil => cases rightCarries.length_eq
          | cons e right =>
              cases slot with
              | none =>
                  obtain ⟨same, further⟩ := List.cons.inj sameData
                  rw [same, ih leftCarries.tail rightCarries.tail further]
              | some c =>
                  have shown : some d = some e :=
                    (leftCarries.shows 0 c rfl).trans (rightCarries.shows 0 c rfl).symm
                  rw [Option.some.inj shown, ih leftCarries.tail rightCarries.tail sameData]

end Carries

end Layout

namespace Mask

def mirrored (mask : Mask) : Mask := ⟨mask.elements.reverse, !mask.rightToLeft⟩

theorem layout_mirrored (mask : Mask) (separators : Separators) :
    mask.mirrored.layout separators = (mask.layout separators).reverse :=
  List.map_reverse

theorem slotCount_mirrored (mask : Mask) : mask.mirrored.slotCount = mask.slotCount :=
  List.countP_reverse

theorem remove_raw_mirrored (mask : Mask) (separators : Separators) (value : List Char) :
    mask.mirrored.remove separators false value.reverse =
      (mask.remove separators false value).reverse := by
  rw [remove_raw, remove_raw, slotCount_mirrored]
  exact packed_reverse mask.rightToLeft ' ' mask.slotCount value

theorem apply_raw_mirrored (mask : Mask) (separators : Separators) (space : Char)
    (value : List Char) :
    mask.mirrored.apply separators false space value.reverse =
      (mask.apply separators false space value).reverse := by
  obtain ⟨carries, spelled⟩ := mask.apply_raw separators space value
  obtain ⟨mirroredCarries, mirroredSpelled⟩ :=
    mask.mirrored.apply_raw separators space value.reverse
  rw [layout_mirrored] at mirroredCarries mirroredSpelled
  apply mirroredCarries.eq_of_data_eq carries.reverse
  rw [mirroredSpelled, remove_raw_mirrored, Layout.data_reverse _ _ carries.length_eq, spelled]

private theorem apply_raw_other_space (mask : Mask) (separators : Separators) (space other : Char)
    (value : List Char) :
    mask.apply separators false other value = mask.apply separators false space value := by
  obtain ⟨carries, spelled⟩ := mask.apply_raw separators space value
  obtain ⟨otherCarries, otherSpelled⟩ := mask.apply_raw separators other value
  exact otherCarries.eq_of_data_eq carries (otherSpelled.trans spelled.symm)

theorem raw_value_fills_slots (mask : Mask) (separators : Separators) (space : Char)
    (value : List Char) :
    let layout := mask.layout separators
    let applied := mask.apply separators false space value
    let removed := mask.remove separators false value
    let blanks := List.replicate (mask.slotCount - value.length) ' '
    (removed.length = mask.slotCount ∧
        removed =
          if mask.rightToLeft then blanks ++ value.drop (value.length - mask.slotCount)
          else value.take mask.slotCount ++ blanks) ∧
      (applied.length = mask.length ∧
        (∀ (position : Nat) (c : Char),
          layout[position]? = some (some c) → applied[position]? = some c) ∧
        layout.data applied = removed) ∧
      (∀ other, mask.apply separators false other value = applied) ∧
      applied = (mask.mirrored.apply separators false space value.reverse).reverse ∧
      removed = (mask.mirrored.remove separators false value.reverse).reverse := by
  intro layout applied removed blanks
  obtain ⟨carries, spelled⟩ := mask.apply_raw separators space value
  have received : removed = packed mask.rightToLeft ' ' mask.slotCount value :=
    mask.remove_raw separators value
  refine ⟨⟨?_, ?_⟩, ⟨?_, carries.shows, spelled⟩, ?_, ?_, ?_⟩
  · rw [received, packed_length]
  · rw [received, packed_eq]
  · rw [← mask.layout_length separators]
    exact carries.length_eq
  · intro other
    exact mask.apply_raw_other_space separators space other value
  · rw [apply_raw_mirrored, List.reverse_reverse]
  · rw [remove_raw_mirrored, List.reverse_reverse]

end Mask

end InputMask
