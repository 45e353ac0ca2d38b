/-
The runs of a layout. A layout is a run of data slots, then a fixed character and the rest of
the layout, as often as it has fixed characters. Statements about filling follow this shape and
not the single positions, because a fixed character cuts a value and a data slot does not.

Alternation puts a list of runs together with the characters that stand between them. The same
function assembles a layout, a formatted value and a value that has been cut.
-/
import InputMask.Mask

namespace InputMask

namespace Text

/-- The pieces in order, with one separator between each two of them. Pieces for which no
separator is left are dropped. -/
def alternate {α : Type} : List (List α) → List α → List α
  | piece :: next :: pieces, separator :: separators =>
      piece ++ separator :: alternate (next :: pieces) separators
  | pieces, _ => pieces.headD []

section Alternate

variable {α : Type}

theorem alternate_single (piece : List α) (separators : List α) :
    alternate [piece] separators = piece := by
  cases separators <;> rfl

theorem alternate_cons (piece : List α) (pieces : List (List α)) (separator : α)
    (separators : List α) (more : pieces ≠ []) :
    alternate (piece :: pieces) (separator :: separators) =
      piece ++ separator :: alternate pieces separators := by
  cases pieces with
  | nil => exact absurd rfl more
  | cons next rest => rfl

end Alternate

end Text

namespace Layout

def anchors (layout : Layout) : List Char := layout.filterMap id

def runWidths : Layout → List Nat
  | [] => [0]
  | none :: layout => (runWidths layout).modifyHead (· + 1)
  | some _ :: layout => 0 :: runWidths layout

abbrev run (width : Nat) : Layout := List.replicate width none

theorem run_cons (width : Nat) (layout : Layout) :
    run width ++ none :: layout = run (width + 1) ++ layout := by
  rw [run, run, List.replicate_succ', List.append_assoc]
  rfl

/-- A layout ends in a run, and every earlier run is ended by a fixed character. -/
theorem runInduction {motive : Layout → Prop} (last : ∀ width, motive (run width))
    (anchor : ∀ width c layout, motive layout → motive (run width ++ some c :: layout))
    (layout : Layout) : motive layout := by
  have generalized : ∀ width, motive (run width ++ layout) := by
    induction layout with
    | nil =>
        intro width
        rw [List.append_nil]
        exact last width
    | cons slot rest ih =>
        intro width
        cases slot with
        | none =>
            rw [run_cons]
            exact ih (width + 1)
        | some c => exact anchor width c rest (ih 0)
  exact generalized 0

theorem run_length (width : Nat) : (run width).length = width := List.length_replicate

theorem runWidths_ne_nil (layout : Layout) : layout.runWidths ≠ [] := by
  induction layout with
  | nil => exact List.cons_ne_nil 0 []
  | cons slot rest ih =>
      cases slot with
      | none =>
          intro empty
          exact ih (List.modifyHead_eq_nil_iff.mp empty)
      | some c => exact List.cons_ne_nil 0 _

theorem runWidths_append (width : Nat) (layout : Layout) :
    runWidths (run width ++ layout) = layout.runWidths.modifyHead (· + width) := by
  induction width with
  | zero =>
      change layout.runWidths = _
      cases layout.runWidths <;> rfl
  | succ width ih =>
      change (runWidths (run width ++ layout)).modifyHead (· + 1) = _
      rw [ih, List.modifyHead_modifyHead]
      rfl

theorem runWidths_run (width : Nat) : runWidths (run width) = [width] := by
  have widths := runWidths_append width []
  rw [List.append_nil] at widths
  rw [widths]
  simp [runWidths]

theorem runWidths_anchor (width : Nat) (c : Char) (layout : Layout) :
    runWidths (run width ++ some c :: layout) = width :: layout.runWidths := by
  rw [runWidths_append]
  simp [runWidths]

theorem anchors_run (width : Nat) : anchors (run width) = [] := by
  simp [anchors]

theorem anchors_anchor (width : Nat) (c : Char) (layout : Layout) :
    anchors (run width ++ some c :: layout) = c :: layout.anchors := by
  simp [anchors]

theorem mem_anchors (layout : Layout) (c : Char) : c ∈ layout.anchors ↔ some c ∈ layout := by
  simp [anchors]

theorem count_none_run (width : Nat) : (run width).count none = width := by
  simp

theorem count_none_anchor (width : Nat) (c : Char) (layout : Layout) :
    (run width ++ some c :: layout).count none = width + layout.count none := by
  simp

theorem runWidths_length (layout : Layout) :
    layout.runWidths.length = layout.anchors.length + 1 := by
  induction layout using runInduction with
  | last width => rw [runWidths_run, anchors_run]; rfl
  | anchor width c layout ih =>
      rw [runWidths_anchor, anchors_anchor, List.length_cons, List.length_cons, ih]

/-- Runs of one filler around the fixed characters make up the layout with that filler. -/
theorem alternate_fill {α : Type} (layout : Layout) (shown : Option Char → α) :
    Text.alternate (layout.runWidths.map (List.replicate · (shown none)))
      (layout.anchors.map (fun c => shown (some c))) = layout.map shown := by
  induction layout using runInduction with
  | last width =>
      rw [runWidths_run, anchors_run]
      simp [Text.alternate]
  | anchor width c layout ih =>
      have more : layout.runWidths.map (List.replicate · (shown none)) ≠ [] := by
        intro empty
        exact layout.runWidths_ne_nil (List.map_eq_nil_iff.mp empty)
      rw [runWidths_anchor, anchors_anchor, List.map_cons, List.map_cons,
        Text.alternate_cons _ _ _ _ more, ih]
      simp

end Layout

end InputMask
