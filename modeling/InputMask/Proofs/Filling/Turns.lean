/-
Filling with positions. A formatted value can be cut by two cursors, one in the mask and one in
the value: each turn looks for the first fixed character from the cursor in the mask on and for
that character from the cursor in the value on. The turns make the same placements as the cutting
that takes the layout and the value apart.

The main statement, `filling_in_range`, says that no cursor and no run of slots ever leaves the
mask or the value, and that no slot is written twice.
-/
import InputMask.Proofs.Filling.Raw

namespace InputMask

namespace Layout

def firstAnchor? (start : Nat) : Layout → Option (Nat × Char)
  | [] => none
  | none :: layout => firstAnchor? (start + 1) layout
  | some c :: _ => some (start, c)

def anchorFrom? (layout : Layout) (start : Nat) : Option (Nat × Char) :=
  firstAnchor? start (layout.drop start)

private theorem firstAnchor?_append (start width : Nat) (layout : Layout) :
    firstAnchor? start (run width ++ layout) = firstAnchor? (start + width) layout := by
  induction width generalizing start with
  | zero => rfl
  | succ width ih =>
      change firstAnchor? (start + 1) (run width ++ layout) = _
      rw [ih, Nat.add_right_comm, Nat.add_assoc]

private theorem eq_run_of_no_anchor {start : Nat} {layout : Layout}
    (missing : firstAnchor? start layout = none) : layout = run layout.length := by
  induction layout using runInduction with
  | last width => rw [run_length]
  | anchor width c layout _ =>
      rw [firstAnchor?_append] at missing
      cases missing

private theorem exists_run_of_anchor {start stop : Nat} {c : Char} {layout : Layout}
    (found : firstAnchor? start layout = some (stop, c)) :
    ∃ width rest, stop = start + width ∧ layout = run width ++ some c :: rest := by
  induction layout using runInduction with
  | last width =>
      have missing := firstAnchor?_append start width []
      rw [List.append_nil, found] at missing
      cases missing
  | anchor width d rest _ =>
      rw [firstAnchor?_append] at found
      cases found
      exact ⟨width, rest, rfl, rfl⟩

private theorem drop_beyond {α : Type} (front back : List α) (x : α) :
    (front ++ x :: back).drop (front.length + 1) = back := by
  rw [List.append_cons]
  exact List.drop_left' (by rw [List.length_append, List.length_singleton])

section Search

variable {layout : Layout} {start stop : Nat} {c : Char}

private theorem drop_of_no_anchor (missing : layout.anchorFrom? start = none) :
    layout.drop start = run (layout.length - start) := by
  have data := eq_run_of_no_anchor missing
  rwa [List.length_drop] at data

private theorem drop_of_anchor (found : layout.anchorFrom? start = some (stop, c)) :
    start ≤ stop ∧ stop < layout.length ∧
      layout.drop start = run (stop - start) ++ some c :: layout.drop (stop + 1) := by
  obtain ⟨width, rest, atStop, parts⟩ := exists_run_of_anchor found
  have total := congrArg List.length parts
  rw [List.length_drop, List.length_append, run_length, List.length_cons] at total
  have behind : layout.drop (stop + 1) = rest := by
    have beyond := drop_beyond (run width) rest (some c)
    rw [run_length] at beyond
    rw [atStop, Nat.add_assoc, ← List.drop_drop, parts, beyond]
  have width_eq : stop - start = width := by omega
  rw [behind, width_eq]
  exact ⟨by omega, by omega, parts⟩

private theorem data_of_drop {rest : Layout}
    (parts : layout.drop start = run (stop - start) ++ rest) (position : Nat)
    (after : start ≤ position) (before : position < stop) : layout[position]? = some none := by
  have inRun : position - start < stop - start := by omega
  have shifted : (layout.drop start)[position - start]? = layout[start + (position - start)]? :=
    List.getElem?_drop
  rw [Nat.add_sub_cancel' after, parts,
    List.getElem?_append_left (by rw [run_length]; exact inRun),
    List.getElem?_replicate_of_lt inRun] at shifted
  exact shifted.symm

private theorem anchor_of_drop {rest : Layout}
    (ordered : start ≤ stop) (parts : layout.drop start = run (stop - start) ++ some c :: rest) :
    layout[stop]? = some (some c) := by
  have shifted : (layout.drop start)[stop - start]? = layout[start + (stop - start)]? :=
    List.getElem?_drop
  rw [Nat.add_sub_cancel' ordered, parts, anchor_at] at shifted
  exact shifted.symm

end Search

end Layout

/-- One turn: the run of slots by its two ends, how many characters of the value have been used
before, the fixed character at which the run ends, and the text for the run. Only the last run of
a mask ends without one. -/
structure Turn where
  start : Nat
  stop : Nat
  used : Nat
  anchor? : Option Char
  text : List Char

def Turn.placement (turn : Turn) : Placement :=
  ⟨turn.start, turn.stop - turn.start, turn.text⟩

structure Turn.InRange (layout : Layout) (value : List Char) (turn : Turn) : Prop where
  ordered : turn.start ≤ turn.stop
  inMask : turn.stop ≤ layout.length
  inValue : turn.used ≤ value.length
  sliced : turn.text <+: value.drop turn.used
  data : ∀ position, turn.start ≤ position → position < turn.stop →
    layout[position]? = some none
  anchored : ∀ c, turn.anchor? = some c → layout[turn.stop]? = some (some c)

namespace Layout

/-- The turns from two cursors on. A fixed character that the value lacks from there on ends
them. -/
def turnsFrom (layout : Layout) (value : List Char) (start used : Nat) : List Turn :=
  match _found : layout.anchorFrom? start with
  | none => [⟨start, layout.length, used, none, value.drop used⟩]
  | some (stop, c) =>
      match Text.cutAt? c (value.drop used) with
      | none => [⟨start, stop, used, some c, value.drop used⟩]
      | some (piece, _) =>
          ⟨start, stop, used, some c, piece⟩ ::
            turnsFrom layout value (stop + 1) (used + piece.length + 1)
termination_by layout.length - start
decreasing_by
  have bounds := drop_of_anchor _found
  omega

def turns (layout : Layout) (value : List Char) : List Turn :=
  if layout.admits value then layout.turnsFrom value 0 0 else []

section Turns

variable (layout : Layout) (value : List Char)

/-- What the cursors have passed is what has been taken from the layout and from the value. -/
theorem turnsFrom_placement (start used : Nat) (inMask : start ≤ layout.length) :
    (layout.turnsFrom value start used).map Turn.placement =
      segments start 0 (layout.drop start) (value.drop used) := by
  fun_induction turnsFrom layout value start used with
  | case1 start used missing =>
      rw [drop_of_no_anchor missing, segments_run]
      rfl
  | case2 start used stop c found uncut =>
      rw [(drop_of_anchor found).2.2, segments_anchor, uncut]
      rfl
  | case3 start used stop c found piece later cut ih =>
      obtain ⟨ordered, inside, parts⟩ := drop_of_anchor found
      have behind : value.drop (used + piece.length + 1) = later := by
        have same := ((Text.cutAt?_eq_some_iff c _ piece later).mp cut).1
        rw [Nat.add_assoc, ← List.drop_drop, same, drop_beyond]
      have next : start + (stop - start) + 1 = stop + 1 := by omega
      rw [parts, segments_anchor, cut, List.map_cons, ih inside, behind, next]
      rfl

theorem turnsFrom_inRange (start used : Nat) (inMask : start ≤ layout.length)
    (inValue : used ≤ value.length) :
    ∀ turn ∈ layout.turnsFrom value start used, turn.InRange layout value := by
  fun_induction turnsFrom layout value start used with
  | case1 start used missing =>
      intro turn member
      rw [List.mem_singleton.mp member]
      have parts := drop_of_no_anchor missing
      rw [← List.append_nil (run _)] at parts
      exact ⟨inMask, Nat.le_refl _, inValue, List.prefix_refl _, data_of_drop parts, nofun⟩
  | case2 start used stop c found uncut =>
      intro turn member
      rw [List.mem_singleton.mp member]
      obtain ⟨ordered, inside, parts⟩ := drop_of_anchor found
      refine ⟨ordered, Nat.le_of_lt inside, inValue, List.prefix_refl _, data_of_drop parts, ?_⟩
      intro d same
      rw [← Option.some.inj same]
      exact anchor_of_drop ordered parts
  | case3 start used stop c found piece later cut ih =>
      obtain ⟨ordered, inside, parts⟩ := drop_of_anchor found
      have same := ((Text.cutAt?_eq_some_iff c _ piece later).mp cut).1
      intro turn member
      rcases List.mem_cons.mp member with here | beyond
      · rw [here]
        refine ⟨ordered, Nat.le_of_lt inside, inValue, ⟨c :: later, same.symm⟩,
          data_of_drop parts, ?_⟩
        intro d sameAnchor
        rw [← Option.some.inj sameAnchor]
        exact anchor_of_drop ordered parts
      · -- The value still holds the fixed character, so the cursor stays in it behind that one.
        have total := congrArg List.length same
        rw [List.length_drop, List.length_append, List.length_cons] at total
        exact ih inside (by omega) turn beyond

private theorem le_start_of_mem_turnsFrom (start used : Nat) :
    ∀ turn ∈ layout.turnsFrom value start used, start ≤ turn.start := by
  fun_induction turnsFrom layout value start used with
  | case1 start used missing =>
      intro turn member
      exact Nat.le_of_eq (congrArg Turn.start (List.mem_singleton.mp member)).symm
  | case2 start used stop c found uncut =>
      intro turn member
      exact Nat.le_of_eq (congrArg Turn.start (List.mem_singleton.mp member)).symm
  | case3 start used stop c found piece later cut ih =>
      intro turn member
      rcases List.mem_cons.mp member with here | beyond
      · exact Nat.le_of_eq (congrArg Turn.start here).symm
      · have ordered := (drop_of_anchor found).1
        have further := ih turn beyond
        omega

/-- A turn starts behind the fixed character that the turn before it has met. -/
theorem turnsFrom_apart (start used : Nat) :
    (layout.turnsFrom value start used).Pairwise
      (fun earlier later => earlier.stop < later.start) := by
  fun_induction turnsFrom layout value start used with
  | case1 start used missing => exact List.pairwise_singleton _ _
  | case2 start used stop c found uncut => exact List.pairwise_singleton _ _
  | case3 start used stop c found piece later cut ih =>
      refine List.pairwise_cons.mpr ⟨?_, ih⟩
      intro turn member
      exact le_start_of_mem_turnsFrom layout value _ _ turn member

/-- The turns meet the fixed characters in order, each at most once. -/
theorem turnsFrom_anchors (start used : Nat) :
    (layout.turnsFrom value start used).filterMap Turn.anchor? <+: anchors (layout.drop start) := by
  fun_induction turnsFrom layout value start used with
  | case1 start used missing => exact List.nil_prefix
  | case2 start used stop c found uncut =>
      rw [(drop_of_anchor found).2.2, anchors_anchor]
      exact ⟨_, rfl⟩
  | case3 start used stop c found piece later cut ih =>
      rw [(drop_of_anchor found).2.2, anchors_anchor]
      exact List.cons_prefix_cons.mpr ⟨rfl, ih⟩

structure Orderly (turns : List Turn) : Prop where
  inRange : ∀ turn ∈ turns, turn.InRange layout value
  apart : turns.Pairwise (fun earlier later => earlier.stop < later.start)
  met : turns.filterMap Turn.anchor? <+: layout.anchors

theorem turns_orderly : Orderly layout value (layout.turns value) := by
  unfold turns
  cases layout.admits value with
  | true =>
      exact
        { inRange := layout.turnsFrom_inRange value 0 0 (Nat.zero_le _) (Nat.zero_le _)
          apart := layout.turnsFrom_apart value 0 0
          met := layout.turnsFrom_anchors value 0 0 }
  | false => exact ⟨nofun, List.Pairwise.nil, List.nil_prefix⟩

theorem turns_placement :
    (layout.turns value).map Turn.placement = layout.formattedPlacements value := by
  unfold turns formattedPlacements
  cases layout.admits value with
  | true => exact layout.turnsFrom_placement value 0 0 (Nat.zero_le _)
  | false => rfl

end Turns

end Layout

namespace Mask

theorem layout_data_iff (mask : Mask) (separators : Separators) (position : Nat) :
    (mask.layout separators)[position]? = some none ↔
      ∃ element, mask.elements[position]? = some element ∧ element.isFixed = false := by
  simp only [layout, List.getElem?_map, Option.map_eq_some_iff, Element.fixed?_eq_none_iff]

theorem layout_anchors_length (mask : Mask) (separators : Separators) :
    (mask.layout separators).anchors.length = mask.elements.countP Element.isFixed := by
  rw [Layout.anchors, List.length_filterMap_eq_countP, layout, List.countP_map]
  refine List.countP_congr ?_
  intro element _member
  rw [← element.fixed?_isSome separators]
  rfl

theorem filling_in_range (mask : Mask) (separators : Separators) (value : List Char) :
    let layout := mask.layout separators
    let turns := layout.turns value
    let raw := mask.placements separators false value
    let dataAt (position : Nat) : Prop :=
      ∃ element, mask.elements[position]? = some element ∧ element.isFixed = false
    (∀ (formatted : Bool) (space : Char) (seed : Line),
        seed = layout.template space ∨ seed = layout.blank →
          ∀ count, (seed.fill mask.rightToLeft
            ((mask.placements separators formatted value).take count)).length = mask.length) ∧
      turns.map Turn.placement = mask.placements separators true value ∧
      (∀ turn ∈ turns,
        (turn.start ≤ turn.stop ∧ turn.stop ≤ mask.length ∧
          ∀ position, turn.start ≤ position → position < turn.stop → dataAt position) ∧
        (turn.used ≤ value.length ∧ turn.text <+: value.drop turn.used) ∧
        ∀ c, turn.anchor? = some c →
          turn.stop < mask.length ∧ layout[turn.stop]? = some (some c)) ∧
      turns.Pairwise (fun earlier later => earlier.stop < later.start) ∧
      turns.countP (fun turn => turn.anchor?.isSome) ≤ mask.elements.countP Element.isFixed ∧
      (∀ placement ∈ raw, ∃ position c, placement = ⟨position, 1, [c]⟩ ∧
        position < mask.length ∧ dataAt position) ∧
      (raw.map Placement.start).Nodup := by
  intro layout turns raw dataAt
  have isData (position : Nat) (data : layout[position]? = some none) : dataAt position :=
    (mask.layout_data_iff separators position).mp data
  have sameLength : layout.length = mask.length := mask.layout_length separators
  have orderly := layout.turns_orderly value
  refine ⟨?_, layout.turns_placement value, ?_, ?_, ?_, ?_, ?_⟩
  · intro formatted space seed isSeed count
    rw [Line.fill_length, ← sameLength]
    rcases isSeed with isTemplate | isBlank
    · rw [isTemplate]
      exact List.length_map _
    · rw [isBlank]
      exact List.length_replicate
  · intro turn member
    have holds := orderly.inRange turn member
    refine ⟨⟨holds.ordered, sameLength ▸ holds.inMask, ?_⟩, ⟨holds.inValue, holds.sliced⟩, ?_⟩
    · intro position after before
      exact isData position (holds.data position after before)
    · intro c met
      have anchored := holds.anchored c met
      exact ⟨sameLength ▸ (List.getElem?_eq_some_iff.mp anchored).1, anchored⟩
  · exact orderly.apart
  · rw [← List.length_filterMap_eq_countP, ← mask.layout_anchors_length separators]
    exact orderly.met.length_le
  · intro placement member
    have inGaps : placement ∈ rawPlacements mask.rightToLeft (layout.gaps 0) value :=
      mask.placements_raw separators value ▸ member
    obtain ⟨position, c, shape, gap⟩ := mem_rawPlacements inGaps
    obtain ⟨offset, same, free⟩ := Layout.none_of_mem_gaps gap
    have data : layout[position]? = some none := by rw [same, Nat.zero_add, free]
    exact ⟨position, c, shape, sameLength ▸ (List.getElem?_eq_some_iff.mp data).1,
      isData position data⟩
  · rw [show raw = _ from mask.placements_raw separators value]
    exact rawPlacements_nodup mask.rightToLeft value (layout.gaps_ascending 0)

/-- The second dash is missing, so the rest of the value goes in front of it and the digit behind
it is not reached. -/
theorem filling_in_range_missing_dash :
    let digit : Element := .typed ⟨.digit, true, .unchanged⟩
    let mask : Mask := ⟨[digit, .literal '-', digit, .literal '-', digit], false⟩
    let value := ['1', '-', '2', '3']
    let second : Turn := ⟨2, 3, 2, some '-', ['2', '3']⟩
    (mask.layout {}).turns value = [⟨0, 1, 0, some '-', ['1']⟩, second] ∧
      second.used ≤ value.length ∧ second.stop < mask.length := by
  intro digit mask value second
  have turns : (mask.layout {}).turns value = [⟨0, 1, 0, some '-', ['1']⟩, second] := by cbv
  have member : second ∈ (mask.layout {}).turns value := by
    rw [turns]
    exact List.mem_cons_of_mem _ List.mem_cons_self
  have inRange := (mask.filling_in_range {} value).2.2.1 second member
  exact ⟨turns, inRange.2.1.1, (inRange.2.2 '-' rfl).1⟩

end Mask

end InputMask
