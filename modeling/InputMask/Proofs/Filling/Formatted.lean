/-
What filling a mask with a formatted value writes. The value is cut at the fixed characters in
turn, each piece goes to the run in front of the character that ended it, and every run keeps as
much of its piece as fits.

The main statement, `fill_segments`, says this of a line with any content in its slots.
Applying and removing are its two cases; the equations at the end give them run by run and are
all that later statements use.
-/
import InputMask.Filling
import InputMask.Proofs.Layout.Alignment

namespace InputMask

/-! ### One run -/

section Packing

variable {α β : Type}

/-- What a run keeps of a text: its first characters, or its last ones from right to left. -/
def kept (rightToLeft : Bool) (width : Nat) (text : List α) : List α :=
  let count := min text.length width
  if rightToLeft then text.drop (text.length - count) else text.take count

def packed (rightToLeft : Bool) (filler : α) (width : Nat) (text : List α) : List α :=
  let fillers := List.replicate (width - min text.length width) filler
  if rightToLeft then fillers ++ kept rightToLeft width text
  else kept rightToLeft width text ++ fillers

theorem kept_length (rightToLeft : Bool) (width : Nat) (text : List α) :
    (kept rightToLeft width text).length = min text.length width := by
  have bound := Nat.min_le_left text.length width
  cases rightToLeft with
  | false => exact List.length_take_of_le bound
  | true => exact List.length_drop.trans (Nat.sub_sub_self bound)

theorem kept_of_length_le (rightToLeft : Bool) (width : Nat) (text : List α)
    (fits : text.length ≤ width) : kept rightToLeft width text = text := by
  cases rightToLeft <;> simp [kept, Nat.min_eq_left fits]

theorem mem_of_mem_kept {rightToLeft : Bool} {width : Nat} {text : List α} {c : α}
    (member : c ∈ kept rightToLeft width text) : c ∈ text := by
  cases rightToLeft with
  | false => exact List.mem_of_mem_take member
  | true => exact List.mem_of_mem_drop member

theorem kept_map (rightToLeft : Bool) (width : Nat) (text : List α) (change : α → β) :
    kept rightToLeft width (text.map change) = (kept rightToLeft width text).map change := by
  cases rightToLeft <;> simp [kept]

theorem packed_eq (rightToLeft : Bool) (filler : α) (width : Nat) (text : List α) :
    packed rightToLeft filler width text =
      if rightToLeft then
        List.replicate (width - text.length) filler ++ text.drop (text.length - width)
      else text.take width ++ List.replicate (width - text.length) filler := by
  have missing : width - min text.length width = width - text.length := by omega
  cases rightToLeft with
  | false =>
      have cut : text.take (min text.length width) = text.take width := by
        rw [List.take_eq_take_iff]
        omega
      simp only [packed, kept, missing, cut, Bool.false_eq_true, if_false]
  | true =>
      have skipped : text.length - min text.length width = text.length - width := by omega
      simp only [packed, kept, missing, skipped, if_true]

theorem packed_length (rightToLeft : Bool) (filler : α) (width : Nat) (text : List α) :
    (packed rightToLeft filler width text).length = width := by
  have count := kept_length rightToLeft width text
  have bound := Nat.min_le_right text.length width
  cases rightToLeft with
  | false =>
      change (kept false width text ++ List.replicate _ filler).length = width
      rw [List.length_append, List.length_replicate, count]
      exact Nat.add_sub_of_le bound
  | true =>
      change (List.replicate _ filler ++ kept true width text).length = width
      rw [List.length_append, List.length_replicate, count]
      exact Nat.sub_add_cancel bound

theorem packed_nil (rightToLeft : Bool) (filler : α) (width : Nat) :
    packed rightToLeft filler width [] = List.replicate width filler := by
  cases rightToLeft <;> simp [packed, kept]

theorem packed_of_length_eq (rightToLeft : Bool) (filler : α) (text : List α) :
    packed rightToLeft filler text.length text = text := by
  have whole := kept_of_length_le rightToLeft text.length text (Nat.le_refl _)
  cases rightToLeft <;> simp [packed, whole]

theorem mem_packed {rightToLeft : Bool} {filler : α} {width : Nat} {text : List α} {c : α}
    (member : c ∈ packed rightToLeft filler width text) : c = filler ∨ c ∈ text := by
  cases rightToLeft with
  | false =>
      rcases List.mem_append.mp member with inside | outside
      · exact Or.inr (mem_of_mem_kept inside)
      · exact Or.inl (List.eq_of_mem_replicate outside)
  | true =>
      rcases List.mem_append.mp member with outside | inside
      · exact Or.inl (List.eq_of_mem_replicate outside)
      · exact Or.inr (mem_of_mem_kept inside)

theorem packed_map (rightToLeft : Bool) (filler : α) (width : Nat) (text : List α)
    (change : α → β) :
    packed rightToLeft (change filler) width (text.map change) =
      (packed rightToLeft filler width text).map change := by
  cases rightToLeft <;> simp [packed, kept_map]

end Packing

namespace Line

private theorem overlay_replicate (text : List Char) (width : Nat) (slot : Option Char) :
    overlay text (List.replicate width slot) =
      (text.take width).map some ++ List.replicate (width - text.length) slot := by
  induction text generalizing width with
  | nil => simp [overlay]
  | cons c rest ih =>
      cases width with
      | zero => simp [overlay]
      | succ width =>
          simp only [List.replicate_succ, overlay, ih, List.take_succ_cons, List.map_cons,
            List.cons_append, List.length_cons, Nat.add_sub_add_right]

private theorem pack_replicate (rightToLeft : Bool) (text : List Char) (width : Nat)
    (slot : Option Char) :
    pack rightToLeft text (List.replicate width slot) =
      packed rightToLeft slot width (text.map some) := by
  rw [packed_eq]
  cases rightToLeft with
  | false => simp [pack, overlay_replicate]
  | true => simp [pack, overlay_replicate, List.take_reverse]

theorem text_append (left right : Line) : text (left ++ right) = text left ++ text right :=
  List.filterMap_append

private theorem text_map_some (written : List Char) : text (written.map some) = written := by
  simp [text]

private theorem text_packed_none (rightToLeft : Bool) (width : Nat) (written : List Char) :
    text (packed rightToLeft none width (written.map some)) =
      kept rightToLeft width written := by
  cases rightToLeft <;> simp [packed, kept_map, text]

end Line

private theorem Placement.fill_within (rightToLeft : Bool) (front run back : Line)
    (written : List Char) :
    Placement.fill rightToLeft (front ++ (run ++ back)) ⟨front.length, run.length, written⟩ =
      front ++ (Line.pack rightToLeft written run ++ back) := by
  simp [Placement.fill, Placement.stop]

/-! ### All runs -/

/-- Cut a text at the first occurrence of each character in turn, until one is not found. -/
def Text.cutEach : List Char → List Char → List (List Char)
  | [], text => [text]
  | c :: anchors, text =>
      match cutAt? c text with
      | none => [text]
      | some (piece, later) => piece :: cutEach anchors later

theorem Text.cutEach_ne_nil (anchors text : List Char) : cutEach anchors text ≠ [] := by
  cases anchors with
  | nil => exact List.cons_ne_nil text []
  | cons c rest =>
      unfold cutEach
      cases cutAt? c text with
      | none => exact List.cons_ne_nil text []
      | some parts => exact List.cons_ne_nil parts.1 _

namespace Layout

/-- The runs with their pieces packed into them, around the fixed characters. A run for which
there is no piece left receives nothing. -/
def poured {α : Type} (rightToLeft : Bool) (shown : Option Char → α) (layout : Layout)
    (pieces : List (List α)) : List α :=
  Text.alternate
    (layout.runWidths.mapIdx
      (fun index width => packed rightToLeft (shown none) width (pieces.getD index [])))
    (layout.anchors.map (fun c => shown (some c)))

section Poured

variable {α : Type}

theorem poured_run (rightToLeft : Bool) (shown : Option Char → α) (width : Nat)
    (pieces : List (List α)) :
    poured rightToLeft shown (run width) pieces =
      packed rightToLeft (shown none) width (pieces.headD []) := by
  rw [poured, runWidths_run, anchors_run]
  cases pieces <;> rfl

theorem poured_anchor (rightToLeft : Bool) (shown : Option Char → α) (width : Nat) (c : Char)
    (layout : Layout) (pieces : List (List α)) :
    poured rightToLeft shown (run width ++ some c :: layout) pieces =
      packed rightToLeft (shown none) width (pieces.headD []) ++
        shown (some c) :: poured rightToLeft shown layout pieces.tail := by
  have more : layout.runWidths.mapIdx (fun index width =>
      packed rightToLeft (shown none) width (pieces.getD (index + 1) [])) ≠ [] := by
    intro empty
    exact layout.runWidths_ne_nil (List.mapIdx_eq_nil_iff.mp empty)
  rw [poured, runWidths_anchor, anchors_anchor, List.mapIdx_cons, List.map_cons,
    Text.alternate_cons _ _ _ _ more]
  cases pieces <;> rfl

theorem poured_nil (rightToLeft : Bool) (shown : Option Char → α) (layout : Layout) :
    poured rightToLeft shown layout [] = layout.map shown := by
  induction layout using runInduction with
  | last width => simp [poured_run, packed_nil]
  | anchor width c layout ih => simp [poured_anchor, packed_nil, ih]

end Poured

private theorem segments_append (start width more : Nat) (layout : Layout) (value : List Char) :
    segments start width (run more ++ layout) value =
      segments start (width + more) layout value := by
  induction more generalizing width with
  | zero => rfl
  | succ more ih =>
      change segments start (width + 1) (run more ++ layout) value = _
      rw [ih, Nat.add_right_comm, Nat.add_assoc]

theorem segments_run (start width : Nat) (value : List Char) :
    segments start 0 (run width) value = [⟨start, width, value⟩] := by
  have appended := segments_append start 0 width [] value
  rw [List.append_nil, Nat.zero_add] at appended
  exact appended

theorem segments_anchor (start width : Nat) (c : Char) (layout : Layout) (value : List Char) :
    segments start 0 (run width ++ some c :: layout) value =
      match Text.cutAt? c value with
      | none => [⟨start, width, value⟩]
      | some (piece, later) =>
          ⟨start, width, piece⟩ :: segments (start + width + 1) 0 layout later := by
  rw [segments_append, Nat.zero_add]
  rfl

/-- The front is what has been filled already: no placement reaches back into it. -/
theorem fill_segments (rightToLeft : Bool) (shown : Option Char → Option Char) (front : Line)
    (layout : Layout) (value : List Char) :
    Line.fill rightToLeft (front ++ layout.map shown) (segments front.length 0 layout value) =
      front ++ poured rightToLeft shown layout
        ((Text.cutEach layout.anchors value).map (List.map some)) := by
  induction layout using runInduction generalizing front value with
  | last width =>
      have filled := Placement.fill_within rightToLeft front
        (List.replicate width (shown none)) [] value
      rw [List.length_replicate, List.append_nil, List.append_nil] at filled
      rw [segments_run, anchors_run, poured_run, List.map_replicate]
      change Placement.fill rightToLeft _ _ = _
      rw [filled, Line.pack_replicate]
      rfl
  | anchor width c layout ih =>
      have filled (piece : List Char) := Placement.fill_within rightToLeft front
        (List.replicate width (shown none)) (shown (some c) :: layout.map shown) piece
      simp only [List.length_replicate, Line.pack_replicate] at filled
      rw [segments_anchor, anchors_anchor, poured_anchor, List.map_append, List.map_replicate,
        List.map_cons, Text.cutEach]
      cases Text.cutAt? c value with
      | none =>
          change Placement.fill rightToLeft _ _ = _
          rw [filled]
          simp [poured_nil]
      | some parts =>
          obtain ⟨piece, later⟩ := parts
          let reached : Line :=
            front ++ (packed rightToLeft (shown none) width (piece.map some) ++
              [shown (some c)])
          have reachedLength : reached.length = front.length + width + 1 := by
            simp only [reached, List.length_append, packed_length, List.length_singleton]
            omega
          have step := ih reached later
          rw [reachedLength] at step
          change Line.fill rightToLeft (Placement.fill rightToLeft _ _) _ = _
          rw [filled]
          simpa [reached] using step

def pieces (layout : Layout) (value : List Char) : List (List Char) :=
  if admits layout value then Text.cutEach layout.anchors value else []

theorem fill_formatted (rightToLeft : Bool) (shown : Option Char → Option Char)
    (layout : Layout) (value : List Char) :
    Line.fill rightToLeft (layout.map shown) (formattedPlacements layout value) =
      poured rightToLeft shown layout ((layout.pieces value).map (List.map some)) := by
  unfold formattedPlacements pieces
  cases admits layout value with
  | true => exact fill_segments rightToLeft shown [] layout value
  | false => exact (poured_nil rightToLeft shown layout).symm

def collected (rightToLeft : Bool) (layout : Layout) (pieces : List (List Char)) : List Char :=
  (List.zipWith (kept rightToLeft) layout.runWidths pieces).flatten

theorem collected_nil (rightToLeft : Bool) (layout : Layout) :
    collected rightToLeft layout [] = [] := by
  rw [collected, List.zipWith_nil_right, List.flatten_nil]

theorem collected_run (rightToLeft : Bool) (width : Nat) (piece : List Char)
    (pieces : List (List Char)) :
    collected rightToLeft (run width) (piece :: pieces) = kept rightToLeft width piece := by
  rw [collected, runWidths_run]
  exact List.append_nil _

theorem collected_anchor (rightToLeft : Bool) (width : Nat) (c : Char) (layout : Layout)
    (piece : List Char) (pieces : List (List Char)) :
    collected rightToLeft (run width ++ some c :: layout) (piece :: pieces) =
      kept rightToLeft width piece ++ collected rightToLeft layout pieces := by
  rw [collected, runWidths_anchor]
  rfl

private theorem text_poured_shown (rightToLeft : Bool) (space : Char) (layout : Layout)
    (pieces : List (List Char)) :
    Line.text (poured rightToLeft (fun slot => some (slot.getD space)) layout
        (pieces.map (List.map some))) =
      poured rightToLeft (·.getD space) layout pieces := by
  have mapped : poured rightToLeft (fun slot => some (slot.getD space)) layout
      (pieces.map (List.map some)) =
        (poured rightToLeft (·.getD space) layout pieces).map some := by
    induction layout using runInduction generalizing pieces with
    | last width =>
        rw [poured_run, poured_run, ← packed_map]
        cases pieces <;> rfl
    | anchor width c layout ih =>
        rw [poured_anchor, poured_anchor, List.map_append, ← packed_map, ← List.map_tail, ih]
        cases pieces <;> rfl
  rw [mapped, Line.text_map_some]

private theorem text_poured_hidden (rightToLeft : Bool) (layout : Layout)
    (pieces : List (List Char)) :
    Line.text (poured rightToLeft (fun _ => none) layout (pieces.map (List.map some))) =
      collected rightToLeft layout pieces := by
  induction layout using runInduction generalizing pieces with
  | last width =>
      cases pieces with
      | nil => simp [poured_nil, collected_nil, Line.text]
      | cons piece rest =>
          rw [poured_run, collected_run]
          exact Line.text_packed_none rightToLeft width piece
  | anchor width c layout ih =>
      cases pieces with
      | nil => simp [poured_nil, collected_nil, Line.text]
      | cons piece rest =>
          rw [poured_anchor, collected_anchor, Line.text_append, ← ih rest]
          exact congrArg (· ++ _) (Line.text_packed_none rightToLeft width piece)

/-- Whatever goes into the runs, the fixed characters stay in their positions. -/
theorem poured_carries (rightToLeft : Bool) (space : Char) (layout : Layout)
    (pieces : List (List Char)) :
    Carries layout (poured rightToLeft (·.getD space) layout pieces) := by
  induction layout using runInduction generalizing pieces with
  | last width =>
      rw [carries_run, poured_run, packed_length]
  | anchor width c layout ih =>
      rw [carries_anchor, poured_anchor]
      exact ⟨_, _, rfl, packed_length _ _ _ _, ih pieces.tail⟩

end Layout

namespace Mask

theorem apply_formatted (mask : Mask) (separators : Separators) (space : Char)
    (value : List Char) :
    mask.apply separators true space value =
      Layout.poured mask.rightToLeft (·.getD space) (mask.layout separators)
        ((mask.layout separators).pieces value) := by
  unfold apply fill
  change Line.text (Line.fill _ ((mask.layout separators).map _)
    ((mask.layout separators).formattedPlacements value)) = _
  rw [Layout.fill_formatted]
  exact Layout.text_poured_shown _ _ _ _

theorem remove_formatted (mask : Mask) (separators : Separators) (value : List Char) :
    mask.remove separators true value =
      Layout.collected mask.rightToLeft (mask.layout separators)
        ((mask.layout separators).pieces value) := by
  unfold remove fill Layout.blank
  rw [← List.map_const']
  change Line.text (Line.fill _ ((mask.layout separators).map _)
    ((mask.layout separators).formattedPlacements value)) = _
  rw [Layout.fill_formatted]
  exact Layout.text_poured_hidden _ _ _

end Mask

end InputMask
