/-
What the filled line owes to the line it starts from. A placement writes the same characters into
the same slots whatever they show before, and the data slots are the only ones it writes. So there
is one line of what the slots receive, `Mask.received`, and every filled line is this one laid over
its seed. Removing shows it alone; applying shows the fixed characters and the placeholder through
its gaps.
-/
import Mathlib.Data.List.Forall2
import InputMask.Proofs.Filling.Raw

namespace InputMask

namespace Line

def onto (front back : Line) : Line := List.zipWith Option.or front back

private theorem overlay_onto (text : List Char) (front back : Line) :
    overlay text (front.onto back) = (overlay text front).onto back := by
  induction text generalizing front back with
  | nil => rfl
  | cons c rest ih =>
      cases front with
      | nil => rfl
      | cons slot front =>
          cases back with
          | nil => rfl
          | cons seed back => exact congrArg (some c :: ·) (ih front back)

private theorem reverse_onto {front back : Line} (sameLength : front.length = back.length) :
    (front.onto back).reverse = onto front.reverse back.reverse :=
  List.reverse_zipWith sameLength

private theorem pack_onto (rightToLeft : Bool) (text : List Char) {front back : Line}
    (sameLength : front.length = back.length) :
    pack rightToLeft text (front.onto back) = (pack rightToLeft text front).onto back := by
  cases rightToLeft with
  | false => exact overlay_onto text front back
  | true =>
      have sameReversed :
          (overlay text.reverse front.reverse).length = back.reverse.length := by
        rw [overlay_length, List.length_reverse, List.length_reverse, sameLength]
      change (overlay text.reverse (front.onto back).reverse).reverse =
        onto (overlay text.reverse front.reverse).reverse back
      rw [reverse_onto sameLength, overlay_onto, reverse_onto sameReversed, List.reverse_reverse]

end Line

theorem Placement.fill_onto (rightToLeft : Bool) (placement : Placement) {front back : Line}
    (sameLength : front.length = back.length) :
    placement.fill rightToLeft (front.onto back) =
      (placement.fill rightToLeft front).onto back := by
  obtain ⟨start, width, text⟩ := placement
  -- The back line is cut where the placement cuts the front one.
  have parts : back =
      back.take start ++ ((back.drop start).take width ++ back.drop (start + width)) := by
    rw [← List.drop_drop, List.take_append_drop, List.take_append_drop]
  have run : ((front.drop start).take width).length = ((back.drop start).take width).length := by
    rw [List.length_take, List.length_take, List.length_drop, List.length_drop, sameLength]
  have packed := Line.pack_onto rightToLeft text run
  unfold Line.onto at packed
  simp only [fill, stop, Line.onto, List.take_zipWith, List.drop_zipWith, packed]
  conv => rhs; rw [parts]
  rw [List.zipWith_append, List.zipWith_append]
  · rw [Line.pack_length, run]
  · rw [List.length_take, List.length_take, sameLength]

namespace Line

theorem fill_onto (rightToLeft : Bool) (placements : List Placement) {front back : Line}
    (sameLength : front.length = back.length) :
    fill rightToLeft (front.onto back) placements =
      (fill rightToLeft front placements).onto back := by
  induction placements generalizing front with
  | nil => rfl
  | cons placement rest ih =>
      have filledLength : (placement.fill rightToLeft front).length = back.length := by
        rw [Placement.fill_length, sameLength]
      change fill rightToLeft (placement.fill rightToLeft (front.onto back)) rest = _
      rw [Placement.fill_onto rightToLeft placement sameLength, ih filledLength]
      rfl

private theorem blank_onto (layout : Layout) {seed : Line}
    (sameLength : seed.length = layout.length) :
    layout.blank.onto seed = seed := by
  unfold Layout.blank onto
  rw [← sameLength]
  clear sameLength
  induction seed with
  | nil => rfl
  | cons slot rest ih => exact congrArg (slot :: ·) ih

end Line

namespace Layout

/-- The line has a slot for each position and shows nothing where the layout has a character. -/
def Spared (layout : Layout) (line : Line) : Prop :=
  List.Forall₂ (fun fixed? shown? => fixed? ≠ none → shown? = none) layout line

private theorem spared_run {width : Nat} {line : Line} (sameLength : line.length = width) :
    Spared (run width) line := by
  subst sameLength
  induction line with
  | nil => exact .nil
  | cons slot rest ih => exact .cons (fun fixed => absurd rfl fixed) ih

theorem poured_spared (rightToLeft : Bool) (layout : Layout)
    (pieces : List (List (Option Char))) :
    Spared layout (poured rightToLeft (fun _ => none) layout pieces) := by
  induction layout using runInduction generalizing pieces with
  | last width =>
      rw [poured_run]
      exact spared_run (packed_length _ _ _ _)
  | anchor width c layout ih =>
      rw [poured_anchor]
      exact List.rel_append (spared_run (packed_length _ _ _ _))
        (.cons (fun _fixed => rfl) (ih pieces.tail))

private theorem map_none_spared (layout : Layout) : Spared layout (layout.map fun _ => none) := by
  induction layout with
  | nil => exact .nil
  | cons slot rest ih => exact .cons (fun _fixed => rfl) ih

theorem withData_spared (layout : Layout) (data : List Char) :
    Spared layout (withData (fun _ => none) layout data) := by
  induction layout generalizing data with
  | nil => cases data <;> exact .nil
  | cons slot rest ih =>
      cases slot with
      | none =>
          cases data with
          | nil => exact map_none_spared (none :: rest)
          | cons c data => exact .cons (fun fixed => absurd rfl fixed) (ih data)
      | some c => cases data <;> exact .cons (fun _fixed => rfl) (ih _)

/-! ### What is seen of a line that is laid over a template -/

theorem text_onto_template_cons (space : Char) (slot fixed? : Option Char) (line : Line)
    (layout : Layout) :
    Line.text (Line.onto (slot :: line) (template (fixed? :: layout) space)) =
      slot.getD (fixed?.getD space) :: Line.text (Line.onto line (template layout space)) := by
  cases slot <;> rfl

theorem Spared.carries {layout : Layout} {line : Line} (spared : Spared layout line)
    (space : Char) : Carries layout (Line.text (Line.onto line (layout.template space))) := by
  induction spared with
  | nil => exact ⟨rfl, nofun⟩
  | cons here _beyond ih =>
      rw [text_onto_template_cons]
      refine ih.cons _ _ ?_
      intro c shown
      subst shown
      rw [here nofun]
      rfl

def shared (layout : Layout) (left right : List Char) : List Char :=
  (layout.zip (left.zip right)).filterMap fun (fixed?, c, d) =>
    if fixed? = none ∧ c = d then some c else none

/-- Two placeholders tell the slots that have received a character from those that have not. -/
theorem Spared.shared_eq_text {layout : Layout} {line : Line} (spared : Spared layout line)
    {left right : Char} (different : left ≠ right) :
    shared layout (Line.text (Line.onto line (layout.template left)))
      (Line.text (Line.onto line (layout.template right))) = line.text := by
  unfold shared
  induction spared with
  | nil => rfl
  | @cons fixed? slot layout line here _beyond ih =>
      rw [text_onto_template_cons, text_onto_template_cons, List.zip_cons_cons,
        List.zip_cons_cons, List.filterMap_cons, ih]
      cases fixed? with
      | some c =>
          rw [here nofun]
          simp [Line.text]
      | none =>
          cases slot with
          | some c => simp [Line.text]
          | none => simp [Line.text, different]

end Layout

namespace Mask

def received (mask : Mask) (separators : Separators) (formatted : Bool) (value : List Char) :
    Line :=
  mask.fill separators formatted (mask.layout separators).blank value

theorem received_spared (mask : Mask) (separators : Separators) (formatted : Bool)
    (value : List Char) :
    (mask.layout separators).Spared (mask.received separators formatted value) := by
  unfold received Layout.blank
  rw [← List.map_const']
  cases formatted with
  | true =>
      have filled := Layout.fill_formatted mask.rightToLeft (fun _ => none)
        (mask.layout separators) value
      change Layout.Spared _ (Line.fill _ ((mask.layout separators).map _)
        ((mask.layout separators).formattedPlacements value))
      rw [filled]
      exact Layout.poured_spared _ _ _
  | false =>
      rw [fill_raw]
      exact Layout.withData_spared _ _

theorem fill_eq_received_onto (mask : Mask) (separators : Separators) (formatted : Bool)
    (seed : Line) (value : List Char) (sameLength : seed.length = mask.length) :
    mask.fill separators formatted seed value =
      (mask.received separators formatted value).onto seed := by
  have layoutLength : seed.length = (mask.layout separators).length := by
    rw [sameLength, mask.layout_length]
  have blankLength : (mask.layout separators).blank.length = seed.length := by
    rw [Layout.blank, List.length_replicate, layoutLength]
  have filled := Line.fill_onto mask.rightToLeft (mask.placements separators formatted value)
    blankLength
  rw [Line.blank_onto _ layoutLength] at filled
  exact filled

theorem apply_eq_received_onto (mask : Mask) (separators : Separators) (formatted : Bool)
    (space : Char) (value : List Char) :
    mask.apply separators formatted space value =
      Line.text ((mask.received separators formatted value).onto
        ((mask.layout separators).template space)) := by
  have templateLength : ((mask.layout separators).template space).length = mask.length := by
    rw [Layout.template, List.length_map, mask.layout_length]
  rw [apply, fill_eq_received_onto _ _ _ _ _ templateLength]

theorem apply_carries (mask : Mask) (separators : Separators) (formatted : Bool) (space : Char)
    (value : List Char) :
    (mask.layout separators).Carries (mask.apply separators formatted space value) := by
  rw [apply_eq_received_onto]
  exact (mask.received_spared separators formatted value).carries space

theorem removed_is_shared (mask : Mask) (separators : Separators) (formatted : Bool)
    (value : List Char) (left right : Char) (different : left ≠ right) :
    let layout := mask.layout separators
    let first := mask.apply separators formatted left value
    let second := mask.apply separators formatted right value
    (first.length = mask.length ∧ second.length = mask.length) ∧
      (∀ (position : Nat) (c : Char), layout[position]? = some (some c) →
        first[position]? = some c ∧ second[position]? = some c) ∧
      mask.remove separators formatted value = layout.shared first second := by
  intro layout first second
  have spared := mask.received_spared separators formatted value
  have firstSame : first = _ := mask.apply_eq_received_onto separators formatted left value
  have secondSame : second = _ := mask.apply_eq_received_onto separators formatted right value
  have firstCarries := spared.carries left
  have secondCarries := spared.carries right
  rw [← firstSame] at firstCarries
  rw [← secondSame] at secondCarries
  refine ⟨⟨?_, ?_⟩, ?_, ?_⟩
  · rw [firstCarries.length_eq, mask.layout_length]
  · rw [secondCarries.length_eq, mask.layout_length]
  · intro position c fixed
    exact ⟨firstCarries.shows position c fixed, secondCarries.shows position c fixed⟩
  · rw [firstSame, secondSame]
    exact (spared.shared_eq_text different).symm

/-- The character of the value that is the first placeholder itself is not taken for a gap. -/
theorem removed_is_shared_underscore :
    let mask : Mask :=
      ⟨[.typed ⟨.any, false, .unchanged⟩, .literal '-', .typed ⟨.any, false, .unchanged⟩], false⟩
    '_' ≠ '*' ∧ mask.apply {} true '_' ['_', '-'] = ['_', '-', '_'] ∧
      mask.apply {} true '*' ['_', '-'] = ['_', '-', '*'] ∧
      mask.remove {} true ['_', '-'] =
        (mask.layout {}).shared ['_', '-', '_'] ['_', '-', '*'] := by
  intro mask
  have different : '_' ≠ '*' := by decide
  exact ⟨different, rfl, rfl,
    (mask.removed_is_shared {} true ['_', '-'] '_' '*' different).2.2⟩

end Mask

end InputMask
