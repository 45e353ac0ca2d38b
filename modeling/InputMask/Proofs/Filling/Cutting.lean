/-
The cut that decides how a formatted value is filled in. A text is cut along a list of
characters greedily: each piece reaches to the first occurrence of the next character, and the
cutting ends where that character does not occur any more.

The main statement, `greedy_cutting_fills`, says that every value has exactly one such cut along
the fixed characters of a mask and that applying and removing follow it.
-/
import InputMask.Proofs.Filling.Formatted

namespace InputMask

namespace Text

theorem cutAt?_eq_none_iff (c : Char) (text : List Char) : cutAt? c text = none ↔ c ∉ text := by
  constructor
  · intro uncut member
    obtain ⟨piece, later, parts, absent⟩ := List.eq_append_cons_of_mem member
    have cut := (cutAt?_eq_some_iff c text piece later).mpr ⟨parts, absent⟩
    rw [uncut] at cut
    cases cut
  · intro absent
    cases cut : cutAt? c text with
    | none => rfl
    | some parts =>
        have same := ((cutAt?_eq_some_iff c text parts.1 parts.2).mp cut).1
        rw [same] at absent
        exact absurd (List.mem_append_right parts.1 List.mem_cons_self) absent

/-- The pieces `s₀, …, sⱼ` of a text that is `s₀ L₁ s₁ … Lⱼ sⱼ` for the given `L₁, …, Lₖ`, where
no `sᵢ` holds the character `Lᵢ₊₁`. -/
structure Cutting (anchors text : List Char) (pieces : List (List Char)) : Prop where
  nonempty : pieces ≠ []
  bounded : pieces.length ≤ anchors.length + 1
  joins : alternate pieces anchors = text
  greedy : ∀ (index : Nat) (piece : List Char) (c : Char),
    pieces[index]? = some piece → anchors[index]? = some c → c ∉ piece

namespace Cutting

/-- A piece that is not the last one is followed by the first of the characters. -/
theorem cons_iff (c : Char) (anchors text piece next : List Char) (pieces : List (List Char)) :
    Cutting (c :: anchors) text (piece :: next :: pieces) ↔
      ∃ later, text = piece ++ c :: later ∧ c ∉ piece ∧
        Cutting anchors later (next :: pieces) := by
  constructor
  · intro cutting
    refine ⟨alternate (next :: pieces) anchors, cutting.joins.symm,
      cutting.greedy 0 piece c rfl rfl, ?_⟩
    exact
      { nonempty := List.cons_ne_nil next pieces
        bounded := Nat.le_of_succ_le_succ cutting.bounded
        joins := rfl
        greedy := fun index => cutting.greedy (index + 1) }
  · intro ⟨later, parts, absent, rest⟩
    refine
      { nonempty := List.cons_ne_nil piece _
        bounded := Nat.succ_le_succ rest.bounded
        joins := ?_
        greedy := ?_ }
    · rw [parts, ← rest.joins]
      rfl
    · intro index other d atPiece atAnchor
      cases index with
      | zero =>
          cases atPiece
          cases atAnchor
          exact absent
      | succ index => exact rest.greedy index other d atPiece atAnchor

theorem single_iff (anchors text piece : List Char) :
    Cutting anchors text [piece] ↔ piece = text ∧ ∀ c, anchors.head? = some c → c ∉ piece := by
  constructor
  · intro cutting
    refine ⟨(alternate_single piece anchors).symm.trans cutting.joins, ?_⟩
    intro c first
    rw [List.head?_eq_getElem?] at first
    exact cutting.greedy 0 piece c rfl first
  · intro ⟨same, absent⟩
    refine
      { nonempty := List.cons_ne_nil piece []
        bounded := Nat.succ_le_succ (Nat.zero_le _)
        joins := (alternate_single piece anchors).trans same
        greedy := ?_ }
    intro index other c atPiece atAnchor
    cases index with
    | zero =>
        cases atPiece
        rw [← List.head?_eq_getElem?] at atAnchor
        exact absent c atAnchor
    | succ index => cases atPiece

end Cutting

/-- A cut along no more characters has one piece. -/
private theorem Cutting.eq_single (text : List Char) (pieces : List (List Char))
    (cutting : Cutting [] text pieces) : pieces = [text] := by
  cases pieces with
  | nil => exact absurd rfl cutting.nonempty
  | cons piece rest =>
      cases rest with
      | nil => rw [((Cutting.single_iff [] text piece).mp cutting).1]
      | cons next others =>
          have bounded := cutting.bounded
          simp only [List.length_cons, List.length_nil] at bounded
          omega

theorem cutEach_cutting (anchors text : List Char) :
    Cutting anchors text (cutEach anchors text) := by
  induction anchors generalizing text with
  | nil => exact (Cutting.single_iff [] text text).mpr ⟨rfl, nofun⟩
  | cons c anchors ih =>
      unfold cutEach
      cases cut : cutAt? c text with
      | none =>
          refine (Cutting.single_iff (c :: anchors) text text).mpr ⟨rfl, ?_⟩
          intro d first
          cases first
          exact (cutAt?_eq_none_iff c text).mp cut
      | some parts =>
          obtain ⟨piece, later⟩ := parts
          obtain ⟨joined, absent⟩ := (cutAt?_eq_some_iff c text piece later).mp cut
          obtain ⟨next, pieces, cutLater⟩ :=
            List.exists_cons_of_ne_nil (cutEach_ne_nil anchors later)
          have rest := ih later
          change Cutting (c :: anchors) text (piece :: cutEach anchors later)
          rw [cutLater] at rest ⊢
          exact (Cutting.cons_iff c anchors text piece next pieces).mpr
            ⟨later, joined, absent, rest⟩

theorem Cutting.eq_cutEach (anchors text : List Char) (pieces : List (List Char))
    (cutting : Cutting anchors text pieces) : pieces = cutEach anchors text := by
  induction anchors generalizing text pieces with
  | nil => exact cutting.eq_single
  | cons c anchors ih =>
      unfold cutEach
      cases pieces with
      | nil => exact absurd rfl cutting.nonempty
      | cons piece rest =>
          cases rest with
          | nil =>
              obtain ⟨same, absent⟩ := (Cutting.single_iff (c :: anchors) text piece).mp cutting
              have uncut := (cutAt?_eq_none_iff c piece).mpr (absent c rfl)
              rw [← same, uncut]
          | cons next others =>
              obtain ⟨later, joined, absent, restCutting⟩ :=
                (Cutting.cons_iff c anchors text piece next others).mp cutting
              have cut := (cutAt?_eq_some_iff c text piece later).mpr ⟨joined, absent⟩
              rw [cut]
              exact congrArg (piece :: ·) (ih later (next :: others) restCutting)

end Text

namespace Layout

/-- The only values that are refused: the mask begins with a character and they do not. -/
theorem admits_eq_false_iff (layout : Layout) (value : List Char) :
    admits layout value = false ↔
      ∃ c, layout.head? = some (some c) ∧ value.head? ≠ some c := by
  cases layout with
  | nil => simp [admits]
  | cons slot rest => cases slot <;> simp [admits]

theorem Carries.admitted {layout : Layout} {text : List Char} (carries : Carries layout text) :
    admits layout text = true := by
  rw [← Bool.not_eq_false, admits_eq_false_iff]
  intro ⟨c, leading, different⟩
  rw [List.head?_eq_getElem?] at leading different
  exact different (carries.shows 0 c leading)

theorem Carries.pieces_eq {layout : Layout} {text : List Char} (carries : Carries layout text) :
    layout.pieces text = Text.cutEach layout.anchors text := by
  rw [pieces, if_pos carries.admitted]

end Layout

/-- Here `s₀, …, sⱼ` are the pieces and `layout.runWidths` the widths of `S₀, …, Sₖ`; a run
without a piece receives nothing. -/
theorem Mask.greedy_cutting_fills (mask : Mask) (separators : Separators) (space : Char)
    (value : List Char) :
    let layout := mask.layout separators
    let applied := mask.apply separators true space value
    let removed := mask.remove separators true value
    let refused := ∃ c, layout.head? = some (some c) ∧ value.head? ≠ some c
    (layout.runWidths.length = layout.anchors.length + 1 ∧
        Text.alternate (layout.runWidths.map Layout.run) (layout.anchors.map some) = layout) ∧
      (applied.length = mask.length ∧ ∀ (position : Nat) (c : Char),
        layout[position]? = some (some c) → applied[position]? = some c) ∧
      (refused → applied = layout.map (·.getD space) ∧ removed = []) ∧
      (¬refused → ∃ pieces, Text.Cutting layout.anchors value pieces ∧
        (∀ other, Text.Cutting layout.anchors value other → other = pieces) ∧
        applied = Text.alternate (layout.runWidths.mapIdx (fun index width =>
          packed mask.rightToLeft space width (pieces.getD index []))) layout.anchors ∧
        removed = (List.zipWith (kept mask.rightToLeft) layout.runWidths pieces).flatten) := by
  intro layout applied removed refused
  have appliedPoured : applied = _ := mask.apply_formatted separators space value
  have removedCollected : removed = _ := mask.remove_formatted separators value
  have carries : layout.Carries applied := by
    rw [appliedPoured]
    exact Layout.poured_carries _ _ _ _
  refine ⟨⟨layout.runWidths_length, ?_⟩, ⟨?_, carries.shows⟩, ?_, ?_⟩
  · have assembled := Layout.alternate_fill layout id
    rwa [List.map_id] at assembled
  · rw [carries.length_eq, mask.layout_length]
  · intro isRefused
    have noPieces : layout.pieces value = [] := by
      rw [Layout.pieces, (layout.admits_eq_false_iff value).mpr isRefused]
      rfl
    rw [appliedPoured, removedCollected, noPieces]
    exact ⟨Layout.poured_nil _ _ _, Layout.collected_nil _ _⟩
  · intro notRefused
    have admitted : layout.admits value = true := by
      rw [← Bool.not_eq_false, layout.admits_eq_false_iff]
      exact notRefused
    have allPieces : layout.pieces value = Text.cutEach layout.anchors value := by
      rw [Layout.pieces, if_pos admitted]
    rw [appliedPoured, removedCollected, allPieces]
    refine ⟨_, Text.cutEach_cutting layout.anchors value, ?_, ?_, rfl⟩
    · intro other cutting
      exact cutting.eq_cutEach
    · exact congrArg (Text.alternate _) (List.map_id _)

end InputMask
