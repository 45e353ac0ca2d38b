/-
What filling a mask with a raw value writes. The value is aligned with one edge of the data
slots as a whole and continued by spaces, so every data slot receives exactly one character.

From right to left the characters are written in the reverse order. They go to different slots,
so the order in which they are written does not show.

Where a raw value goes is decided by the kinds of the elements, not by what they show. That the
two agree, so that the layout alone tells where it goes, is `dataPositions_eq_gaps`.
-/
import InputMask.Proofs.Filling.Formatted

namespace InputMask

namespace Placement

private theorem fill_single (rightToLeft : Bool) (line : Line) (position : Nat) (c : Char) :
    Placement.fill rightToLeft line ⟨position, 1, [c]⟩ = line.set position (some c) := by
  have pack_slot (slot : Option Char) : Line.pack rightToLeft [c] [slot] = [some c] := by
    cases rightToLeft <;> rfl
  have pack_nil : Line.pack rightToLeft [c] [] = [] := by
    cases rightToLeft <;> rfl
  rw [List.set_eq_take_append_cons_drop]
  by_cases inside : position < line.length
  · rw [if_pos inside, Placement.fill, List.drop_eq_getElem_cons inside]
    simp only [List.take_succ_cons, List.take_zero, pack_slot]
    rfl
  · have beyond : line.length ≤ position := Nat.le_of_not_lt inside
    have stopBeyond : line.length ≤ stop ⟨position, 1, [c]⟩ := Nat.le_succ_of_le beyond
    rw [if_neg inside, Placement.fill, List.take_of_length_le beyond,
      List.drop_of_length_le beyond, List.drop_of_length_le stopBeyond, List.take_nil, pack_nil,
      List.append_nil, List.append_nil]

end Placement

/-! ### Data slots by kind and by what is shown -/

namespace Layout

def gaps (start : Nat) : Layout → List Nat
  | [] => []
  | none :: layout => start :: gaps (start + 1) layout
  | some _ :: layout => gaps (start + 1) layout

theorem gaps_length (start : Nat) (layout : Layout) :
    (gaps start layout).length = layout.count none := by
  induction layout generalizing start with
  | nil => rfl
  | cons slot rest ih => cases slot <;> simp [gaps, ih]

private theorem le_of_mem_gaps (start : Nat) (layout : Layout) (position : Nat)
    (member : position ∈ gaps start layout) : start ≤ position := by
  induction layout generalizing start with
  | nil => cases member
  | cons slot rest ih =>
      cases slot with
      | none =>
          rcases List.mem_cons.mp member with same | later
          · exact Nat.le_of_eq same.symm
          · have bound := ih (start + 1) later
            omega
      | some c =>
          have bound := ih (start + 1) member
          omega

theorem gaps_ascending (start : Nat) (layout : Layout) :
    (gaps start layout).Pairwise (· < ·) := by
  induction layout generalizing start with
  | nil => exact List.Pairwise.nil
  | cons slot rest ih =>
      cases slot with
      | none =>
          refine List.pairwise_cons.mpr ⟨?_, ih (start + 1)⟩
          intro position member
          exact le_of_mem_gaps (start + 1) rest position member
      | some c => exact ih (start + 1)

theorem none_of_mem_gaps {start : Nat} {layout : Layout} {position : Nat}
    (member : position ∈ gaps start layout) :
    ∃ offset, position = start + offset ∧ layout[offset]? = some none := by
  induction layout generalizing start with
  | nil => cases member
  | cons slot rest ih =>
      have beyond (later : position ∈ gaps (start + 1) rest) :
          ∃ offset, position = start + offset ∧ (slot :: rest)[offset]? = some none := by
        obtain ⟨offset, same, data⟩ := ih later
        exact ⟨offset + 1, by omega, data⟩
      cases slot with
      | none =>
          rcases List.mem_cons.mp member with here | later
          · exact ⟨0, here, rfl⟩
          · exact beyond later
      | some c => exact beyond member

end Layout

theorem dataPositions_eq_gaps (separators : Separators) (start : Nat) (elements : List Element) :
    dataPositions start elements =
      Layout.gaps start (elements.map (Element.fixed? separators)) := by
  induction elements generalizing start with
  | nil => rfl
  | cons element rest ih =>
      rw [dataPositions, List.map_cons, ih]
      cases shown : element.fixed? separators with
      | none =>
          have isData := (element.fixed?_eq_none_iff separators).mp shown
          rw [isData, if_neg Bool.false_ne_true]
          rfl
      | some c =>
          have isFixed : element.isFixed = true := by
            rw [← element.fixed?_isSome separators, shown]
            rfl
          rw [if_pos isFixed]
          rfl

theorem Mask.placements_raw (mask : Mask) (separators : Separators) (value : List Char) :
    mask.placements separators false value =
      rawPlacements mask.rightToLeft (Layout.gaps 0 (mask.layout separators)) value := by
  rw [layout, ← dataPositions_eq_gaps]
  rfl

/-! ### One character for each position -/

def singles (positions : List Nat) (data : List Char) : List Placement :=
  positions.zipWith (fun position c => ⟨position, 1, [c]⟩) data

private theorem start_mem_of_mem_singles (positions : List Nat) (data : List Char)
    (placement : Placement) (member : placement ∈ singles positions data) :
    placement.start ∈ positions := by
  rw [singles, ← List.map_uncurry_zip_eq_zipWith] at member
  obtain ⟨⟨position, c⟩, inZip, same⟩ := List.mem_map.mp member
  subst placement
  exact (List.of_mem_zip inZip).1

private theorem singles_ascending (positions : List Nat) (data : List Char)
    (ascending : positions.Pairwise (· < ·)) :
    (singles positions data).Pairwise (fun left right => left.start < right.start) := by
  induction positions generalizing data with
  | nil => exact List.Pairwise.nil
  | cons position rest ih =>
      obtain ⟨before, later⟩ := List.pairwise_cons.mp ascending
      cases data with
      | nil => exact List.Pairwise.nil
      | cons c data =>
          refine List.pairwise_cons.mpr ⟨?_, ih data later⟩
          intro placement member
          exact before _ (start_mem_of_mem_singles rest data placement member)

private theorem text_of_mem_singles (positions : List Nat) (data : List Char)
    (placement : Placement) (member : placement ∈ singles positions data) :
    ∃ position c, placement = ⟨position, 1, [c]⟩ := by
  rw [singles, ← List.map_uncurry_zip_eq_zipWith] at member
  obtain ⟨⟨position, c⟩, _inZip, same⟩ := List.mem_map.mp member
  exact ⟨position, c, same.symm⟩

/-- Writing from the last slot to the first gives what writing from the first to the last does. -/
private theorem fill_singles_reverse (rightToLeft : Bool) (line : Line) (positions : List Nat)
    (data : List Char) (ascending : positions.Pairwise (· < ·)) :
    line.fill rightToLeft (singles positions data).reverse =
      line.fill rightToLeft (singles positions data) := by
  -- Different placements of the list commute, and a placement commutes with itself.
  let commute (left right : Placement) : Prop := ∀ filled : Line,
    right.fill rightToLeft (left.fill rightToLeft filled) =
      left.fill rightToLeft (right.fill rightToLeft filled)
  have apart : (singles positions data).Pairwise commute := by
    have ordered := List.Pairwise.imp_mem.mp (singles_ascending positions data ascending)
    refine ordered.imp_of_mem ?_
    intro left right leftMember rightMember before filled
    have different := before leftMember rightMember
    obtain ⟨leftPosition, c, leftShape⟩ := text_of_mem_singles positions data left leftMember
    obtain ⟨rightPosition, d, rightShape⟩ :=
      text_of_mem_singles positions data right rightMember
    subst left right
    simp only [Placement.fill_single]
    exact List.set_comm _ _ (Nat.ne_of_lt different)
  have apartFlipped : (singles positions data).Pairwise (flip commute) :=
    apart.imp (fun same filled => (same filled).symm)
  have all := apart.forall_of_forall_of_flip (fun _ _ _ => rfl) apartFlipped
  apply List.Perm.foldl_eq' (List.reverse_perm _)
  intro left leftMember right rightMember filled
  exact all (List.mem_reverse.mp leftMember) (List.mem_reverse.mp rightMember) filled

private theorem zipWith_take_length {α β γ : Type} (combine : α → β → γ) (left : List α)
    (right : List β) : List.zipWith combine left (right.take left.length) =
      List.zipWith combine left right := by
  induction left generalizing right with
  | nil => rfl
  | cons x rest ih =>
      cases right with
      | nil => rfl
      | cons y others => exact congrArg (combine x y :: ·) (ih others)

/-- The characters that the positions receive are those of one run that has all of them. -/
theorem rawPlacements_eq (rightToLeft : Bool) (positions : List Nat) (value : List Char) :
    let written := singles positions (packed rightToLeft ' ' positions.length value)
    rawPlacements rightToLeft positions value =
      if rightToLeft then written.reverse else written := by
  intro written
  have single := packed_length rightToLeft ' ' positions.length value
  cases rightToLeft with
  | false =>
      have received : (value ++ List.replicate positions.length ' ').take positions.length =
          packed false ' ' positions.length value := by
        simp [packed_eq, List.take_append]
      change List.zipWith _ _ _ = List.zipWith _ _ _
      rw [← received, zipWith_take_length]
  | true =>
      have received : (value.reverse ++ List.replicate positions.length ' ').take
          positions.length = (packed true ' ' positions.length value).reverse := by
        simp [packed_eq, List.take_append, List.take_reverse]
      change List.zipWith _ _ _ = (List.zipWith _ _ _).reverse
      rw [List.reverse_zipWith single.symm, ← received, ← List.length_reverse,
        zipWith_take_length, List.length_reverse]

theorem mem_rawPlacements {rightToLeft : Bool} {positions : List Nat} {value : List Char}
    {placement : Placement} (member : placement ∈ rawPlacements rightToLeft positions value) :
    ∃ position c, placement = ⟨position, 1, [c]⟩ ∧ position ∈ positions := by
  have inSingles :
      placement ∈ singles positions (packed rightToLeft ' ' positions.length value) := by
    rw [rawPlacements_eq] at member
    cases rightToLeft with
    | false => exact member
    | true => exact List.mem_reverse.mp member
  obtain ⟨position, c, shape⟩ := text_of_mem_singles _ _ placement inSingles
  have start := start_mem_of_mem_singles _ _ placement inSingles
  rw [shape] at start
  exact ⟨position, c, shape, start⟩

theorem rawPlacements_nodup (rightToLeft : Bool) {positions : List Nat} (value : List Char)
    (ascending : positions.Pairwise (· < ·)) :
    ((rawPlacements rightToLeft positions value).map Placement.start).Nodup := by
  have ordered := singles_ascending positions (packed rightToLeft ' ' positions.length value)
    ascending
  have nodup := List.pairwise_map.mpr (ordered.imp Nat.ne_of_lt)
  rw [rawPlacements_eq]
  cases rightToLeft with
  | false => exact nodup
  | true =>
      change (List.map _ (List.reverse _)).Nodup
      rw [List.map_reverse]
      exact List.pairwise_reverse.mpr (nodup.imp Ne.symm)

/-! ### Filled lines -/

namespace Layout

/-- The line with the data slots filled from the left, as far as there is data. -/
def withData (shown : Option Char → Option Char) : Layout → List Char → Line
  | none :: layout, c :: data => some c :: withData shown layout data
  | some c :: layout, data => shown (some c) :: withData shown layout data
  | layout, _ => layout.map shown

private theorem fill_gaps (rightToLeft : Bool) (shown : Option Char → Option Char)
    (front : Line) (layout : Layout) (data : List Char) :
    Line.fill rightToLeft (front ++ layout.map shown)
        (singles (gaps front.length layout) data) =
      front ++ withData shown layout data := by
  induction layout generalizing front data with
  | nil => rfl
  | cons slot rest ih =>
      cases slot with
      | none =>
          cases data with
          | nil => rfl
          | cons c data =>
              have step := ih (front ++ [some c]) data
              rw [List.length_append, List.length_singleton, List.append_assoc,
                List.append_assoc] at step
              change Line.fill rightToLeft (Placement.fill rightToLeft _ _) _ = _
              rw [Placement.fill_single, List.map_cons,
                List.set_append_right _ _ (Nat.le_refl _), Nat.sub_self]
              exact step
      | some c =>
          have step := ih (front ++ [shown (some c)]) data
          rw [List.length_append, List.length_singleton, List.append_assoc,
            List.append_assoc] at step
          exact step

theorem fill_raw (rightToLeft : Bool) (shown : Option Char → Option Char) (layout : Layout)
    (value : List Char) :
    Line.fill rightToLeft (layout.map shown)
        (rawPlacements rightToLeft (gaps 0 layout) value) =
      withData shown layout (packed rightToLeft ' ' (layout.count none) value) := by
  have filled := fill_gaps rightToLeft shown [] layout
    (packed rightToLeft ' ' (layout.count none) value)
  have order := fill_singles_reverse rightToLeft (layout.map shown) _
    (packed rightToLeft ' ' (layout.count none) value) (gaps_ascending 0 layout)
  rw [rawPlacements_eq, gaps_length]
  cases rightToLeft with
  | false => exact filled
  | true => exact order.trans filled

private theorem text_withData_hidden (layout : Layout) (data : List Char)
    (enough : data.length = layout.count none) :
    Line.text (withData (fun _ => none) layout data) = data := by
  induction layout generalizing data with
  | nil =>
      have empty := List.eq_nil_of_length_eq_zero enough
      subst data
      rfl
  | cons slot rest ih =>
      cases slot with
      | none =>
          cases data with
          | nil => simp at enough
          | cons c data =>
              rw [List.count_cons_self, List.length_cons, Nat.add_right_cancel_iff] at enough
              exact congrArg (c :: ·) (ih data enough)
      | some c =>
          rw [List.count_cons_of_ne (by simp)] at enough
          cases data <;> exact ih _ enough

private theorem text_withData_shown (space : Char) (layout : Layout) (data : List Char)
    (enough : data.length = layout.count none) :
    let text := Line.text (withData (fun slot => some (slot.getD space)) layout data)
    Carries layout text ∧ layout.data text = data := by
  induction layout generalizing data with
  | nil =>
      have empty := List.eq_nil_of_length_eq_zero enough
      subst data
      exact ⟨⟨rfl, nofun⟩, rfl⟩
  | cons slot rest ih =>
      cases slot with
      | none =>
          cases data with
          | nil => simp at enough
          | cons c data =>
              rw [List.count_cons_self, List.length_cons, Nat.add_right_cancel_iff] at enough
              obtain ⟨carries, same⟩ := ih data enough
              exact ⟨carries.cons none c nofun, congrArg (c :: ·) same⟩
      | some c =>
          rw [List.count_cons_of_ne (by simp)] at enough
          obtain ⟨carries, same⟩ := ih data enough
          have step : withData (fun slot => some (slot.getD space)) (some c :: rest) data =
              some c :: withData (fun slot => some (slot.getD space)) rest data := by
            cases data <;> rfl
          rw [step]
          exact ⟨carries.cons (some c) c (fun d shown => Option.some.inj shown), same⟩

end Layout

namespace Mask

theorem fill_raw (mask : Mask) (separators : Separators) (shown : Option Char → Option Char)
    (value : List Char) :
    mask.fill separators false ((mask.layout separators).map shown) value =
      Layout.withData shown (mask.layout separators)
        (packed mask.rightToLeft ' ' mask.slotCount value) := by
  rw [fill, placements_raw, Layout.fill_raw, layout_count_none]

theorem remove_raw (mask : Mask) (separators : Separators) (value : List Char) :
    mask.remove separators false value = packed mask.rightToLeft ' ' mask.slotCount value := by
  rw [remove, Layout.blank, ← List.map_const', fill_raw]
  apply Layout.text_withData_hidden
  rw [packed_length, layout_count_none]

/-- The data slots of an applied raw value spell what removing the mask from it gives. -/
theorem apply_raw (mask : Mask) (separators : Separators) (space : Char) (value : List Char) :
    let text := mask.apply separators false space value
    (mask.layout separators).Carries text ∧
      (mask.layout separators).data text = mask.remove separators false value := by
  intro text
  have filled : text = Line.text (Layout.withData (fun slot => some (slot.getD space))
      (mask.layout separators) (packed mask.rightToLeft ' ' mask.slotCount value)) :=
    congrArg Line.text (mask.fill_raw separators _ value)
  rw [filled, remove_raw]
  apply Layout.text_withData_shown
  rw [packed_length, layout_count_none]

end Mask

end InputMask
