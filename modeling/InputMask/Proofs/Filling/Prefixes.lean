/-
Formatted values that have been typed in part. A beginning of an aligned text is cut where the
text itself is cut, as far as it goes, and its last piece is the beginning of a run. From left to
right that piece stays where it stands in the text, and everything behind it is empty.
-/
import InputMask.Proofs.Filling.Projection
import InputMask.Proofs.Filling.Recovery

namespace InputMask

private theorem packed_take {α : Type} (filler : α) (text : List α) (count : Nat) :
    packed false filler text.length (text.take count) =
      text.take count ++ List.replicate (text.length - count) filler := by
  have fits : (text.take count).length ≤ text.length := List.length_take_le' count text
  have missing : text.length - (text.take count).length = text.length - count := by
    rw [List.length_take]
    omega
  rw [packed_eq, if_neg Bool.false_ne_true, List.take_of_length_le fits, missing]

private theorem kept_take {α : Type} (rightToLeft : Bool) (text : List α) (count : Nat) :
    kept rightToLeft text.length (text.take count) = text.take count :=
  kept_of_length_le rightToLeft _ _ (List.length_take_le' count text)

/-! ### Where a beginning is cut -/

namespace Text

variable (anchors : List Char) {front : List Char} (later : List Char) {c : Char}
  (absent : c ∉ front) (count : Nat)

include absent

private theorem cutEach_take_within (within : count ≤ front.length) :
    cutEach (c :: anchors) ((front ++ c :: later).take count) = [front.take count] := by
  have uncut : cutAt? c (front.take count) = none :=
    (cutAt?_eq_none_iff c _).mpr (fun member => absent (List.mem_of_mem_take member))
  rw [List.take_append_of_le_length within, cutEach, uncut]

private theorem cutEach_take_beyond :
    cutEach (c :: anchors) ((front ++ c :: later).take (front.length + (count + 1))) =
      front :: cutEach anchors (later.take count) := by
  have cut : cutAt? c (front ++ c :: later.take count) = some (front, later.take count) :=
    (cutAt?_eq_some_iff c _ front _).mpr ⟨rfl, absent⟩
  rw [List.take_length_add_append, List.take_succ_cons, cutEach, cut]

end Text

namespace Layout

/-- A beginning of an aligned text ends in front of the first fixed character or behind it, and in
the last run if there is none. -/
@[elab_as_elim]
theorem Aligned.takeInduction {motive : Layout → List Char → Nat → Prop}
    (last : ∀ text count, motive (run text.length) text count)
    (within : ∀ front c layout later count, c ∉ front → count ≤ front.length →
      motive (run front.length ++ some c :: layout) (front ++ c :: later) count)
    (beyond : ∀ front c layout later count, c ∉ front → motive layout later count →
      motive (run front.length ++ some c :: layout) (front ++ c :: later)
        (front.length + (count + 1)))
    {layout : Layout} {text : List Char} (aligned : Aligned layout text) (count : Nat) :
    motive layout text count := by
  induction layout using runInduction generalizing text count with
  | last width =>
      have sameLength := (aligned_run width text).mp aligned
      subst width
      exact last text count
  | anchor width c layout ih =>
      obtain ⟨front, later, parts, frontLength, absent, rest⟩ :=
        (aligned_anchor width c layout text).mp aligned
      subst text width
      rcases Nat.lt_or_ge front.length count with more | enough
      · obtain ⟨further, same⟩ : ∃ further, count = front.length + (further + 1) :=
          ⟨count - (front.length + 1), by omega⟩
        subst count
        exact beyond front c layout later further absent (ih rest further)
      · exact within front c layout later count absent enough

/-- From the left a run that the beginning does not fill is packed as it stands. -/
private theorem poured_take (space : Char) {layout : Layout} {text : List Char}
    (aligned : Aligned layout text) (count : Nat) :
    poured false (·.getD space) layout (Text.cutEach layout.anchors (text.take count)) =
      text.take count ++ (layout.map (·.getD space)).drop count := by
  refine aligned.takeInduction ?last ?within ?beyond count
  case last =>
    intro text count
    rw [anchors_run, poured_run, Text.cutEach, List.map_replicate, List.drop_replicate]
    exact packed_take space text count
  case within =>
    intro front c layout later count absent enough
    rw [anchors_anchor, poured_anchor, Text.cutEach_take_within _ later absent count enough,
      List.take_append_of_le_length enough]
    simp [poured_nil, packed_take, List.drop_append_of_le_length, enough]
  case beyond =>
    intro front c layout later count absent ih
    have dropped : ((run front.length ++ some c :: layout).map (·.getD space)).drop
        (front.length + (count + 1)) = (layout.map (·.getD space)).drop count := by
      simp [List.drop_append]
    rw [anchors_anchor, poured_anchor, Text.cutEach_take_beyond _ later absent, dropped,
      List.headD_cons, List.tail_cons, ih, Option.getD_none, Option.getD_some,
      packed_of_length_eq, List.take_length_add_append, List.take_succ_cons, List.append_assoc,
      List.cons_append]

private theorem collected_take (rightToLeft : Bool) {layout : Layout} {text : List Char}
    (aligned : Aligned layout text) (count : Nat) :
    collected rightToLeft layout (Text.cutEach layout.anchors (text.take count)) =
      data (layout.take count) text := by
  refine aligned.takeInduction ?last ?within ?beyond count
  case last =>
    intro text count
    rw [anchors_run, Text.cutEach, collected_run, kept_take, List.take_replicate,
      data_run_eq_take, ← List.take_eq_take_min]
  case within =>
    intro front c layout later count absent enough
    have taken : (run front.length ++ some c :: layout).take count = run count := by
      simp [List.take_append_of_le_length, enough]
    rw [anchors_anchor, Text.cutEach_take_within _ later absent count enough, collected_anchor,
      collected_nil, List.append_nil, kept_take, taken, data_run_eq_take,
      List.take_append_of_le_length enough]
  case beyond =>
    intro front c layout later count absent ih
    have taken : (run front.length ++ some c :: layout).take (front.length + (count + 1)) =
        run front.length ++ some c :: layout.take count := by
      simp [List.take_append]
    rw [anchors_anchor, Text.cutEach_take_beyond _ later absent, collected_anchor, ih, taken,
      data_append, kept_of_length_le _ _ _ (Nat.le_refl _)]
    rfl

/-- A mask refuses no beginning of a text that carries it, except the empty one. -/
private theorem Carries.eq_zero_of_refused {layout : Layout} {text : List Char}
    (carries : Carries layout text) {count : Nat}
    (refused : admits layout (text.take count) = false) : count = 0 := by
  obtain ⟨c, leading, different⟩ := (admits_eq_false_iff layout _).mp refused
  rw [List.head?_take, List.head?_eq_getElem?] at different
  rw [List.head?_eq_getElem?] at leading
  apply Classical.byContradiction
  intro some
  rw [if_neg some] at different
  exact different (carries.shows 0 c leading)

end Layout

namespace Mask

/-- The data slots of the first positions are those of the layout cut there. -/
theorem prefix_keeps_place (mask : Mask) (separators : Separators) (space : Char)
    (text : List Char) (leftToRight : mask.rightToLeft = false)
    (aligned : (mask.layout separators).Aligned text) (count : Nat) :
    let layout := mask.layout separators
    mask.apply separators true space (text.take count) =
        text.take count ++ (layout.map (·.getD space)).drop count ∧
      mask.remove separators true (text.take count) = Layout.data (layout.take count) text := by
  intro layout
  rw [apply_formatted, remove_formatted, leftToRight]
  change Layout.poured false _ layout (layout.pieces _) = _ ∧
    Layout.collected false layout (layout.pieces _) = _
  unfold Layout.pieces
  cases admitted : layout.admits (text.take count) with
  | true =>
      exact ⟨Layout.poured_take space aligned count,
        Layout.collected_take false aligned count⟩
  | false =>
      have nothing : count = 0 := aligned.toCarries.eq_zero_of_refused admitted
      subst count
      exact ⟨Layout.poured_nil _ _ _, Layout.collected_nil _ _⟩

/-- The value ends within the second run of slots. -/
theorem prefix_keeps_place_second_run :
    let slot : Element := .typed ⟨.digit, false, .unchanged⟩
    let mask : Mask := ⟨[.literal '(', slot, .literal ')', slot, slot, .dateSeparator, slot], false⟩
    mask.rightToLeft = false ∧
      (mask.layout {}).Aligned ['(', '1', ')', '2', '3', '/', '4'] ∧
      mask.apply {} true '_' ['(', '1', ')', '2'] = ['(', '1', ')', '2', '_', '/', '_'] ∧
      mask.remove {} true ['(', '1', ')', '2'] = ['1', '2'] := by
  intro slot mask
  have aligned : (mask.layout {}).Aligned ['(', '1', ')', '2', '3', '/', '4'] :=
    mask.apply_formatted_aligned {} '_' ['(', '1', ')', '2', '3', '/', '4'] (by decide)
  exact ⟨rfl, aligned, mask.prefix_keeps_place {} '_' _ rfl aligned 4⟩

end Mask

end InputMask
