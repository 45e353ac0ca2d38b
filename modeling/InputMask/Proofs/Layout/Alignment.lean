/-
The formatted texts that belong to a layout. A text carries a layout if it has the same length
and shows each fixed character in its position. It is aligned if, besides, no data slot holds
the character at which its run ends, so that reading from the left meets every fixed character
where it stands.

Both properties speak of single positions. The equations after the definitions turn them into
statements about runs.
-/
import InputMask.Proofs.Layout.Runs

namespace InputMask.Layout

structure Carries (layout : Layout) (text : List Char) : Prop where
  length_eq : text.length = layout.length
  shows : ∀ (position : Nat) (c : Char),
    layout[position]? = some (some c) → text[position]? = some c

structure NextFixed (layout : Layout) (start stop : Nat) (c : Char) : Prop where
  after : start < stop
  fixed : layout[stop]? = some (some c)
  between : ∀ position, start < position → position < stop → layout[position]? = some none

structure Aligned (layout : Layout) (text : List Char) : Prop extends Carries layout text where
  clear : ∀ (start stop : Nat) (c : Char), layout[start]? = some none →
    layout.NextFixed start stop c → text[start]? ≠ some c

def data : Layout → List Char → List Char
  | none :: layout, c :: text => c :: data layout text
  | some _ :: layout, _ :: text => data layout text
  | _, _ => []

section Positions

variable {α : Type}

private theorem getElem?_middle (front back : List α) (x : α) :
    (front ++ x :: back)[front.length]? = some x := by
  rw [List.getElem?_append_right (Nat.le_refl _), Nat.sub_self]
  rfl

private theorem getElem?_back (front back : List α) (x : α) (position : Nat) :
    (front ++ x :: back)[front.length + 1 + position]? = back[position]? := by
  rw [List.getElem?_append_right (by omega),
    show front.length + 1 + position - front.length = position + 1 by omega]
  rfl

end Positions

section Run

variable (width : Nat) (c : Char) (layout : Layout)

private theorem anchor_below (position : Nat) (before : position < width) :
    (run width ++ some c :: layout)[position]? = some none := by
  rw [List.getElem?_append_left (by rw [run_length]; exact before)]
  exact List.getElem?_replicate_of_lt before

theorem anchor_at : (run width ++ some c :: layout)[width]? = some (some c) := by
  have found := getElem?_middle (run width) layout (some c)
  rwa [run_length] at found

private theorem anchor_beyond (position : Nat) :
    (run width ++ some c :: layout)[width + 1 + position]? = layout[position]? := by
  have found := getElem?_back (run width) layout (some c) position
  rwa [run_length] at found

private theorem nextFixed_within (start : Nat) (before : start < width) :
    NextFixed (run width ++ some c :: layout) start width c :=
  ⟨before, anchor_at width c layout,
    fun position _later inRun => anchor_below width c layout position inRun⟩

private theorem nextFixed_beyond (start stop : Nat) (d : Char) :
    NextFixed (run width ++ some c :: layout) (width + 1 + start) (width + 1 + stop) d ↔
      NextFixed layout start stop d := by
  constructor
  · intro next
    refine ⟨by have := next.after; omega, ?_, ?_⟩
    · have fixed := next.fixed
      rwa [anchor_beyond] at fixed
    · intro position later earlier
      have between := next.between (width + 1 + position) (by omega) (by omega)
      rwa [anchor_beyond] at between
  · intro next
    refine ⟨by have := next.after; omega, ?_, ?_⟩
    · rw [anchor_beyond]
      exact next.fixed
    · intro position later earlier
      obtain ⟨offset, same⟩ : ∃ offset, position = width + 1 + offset :=
        ⟨position - (width + 1), by omega⟩
      subst position
      rw [anchor_beyond]
      exact next.between offset (by omega) (by omega)

/-- The first fixed character after a slot of the first run is the one that ends the run. -/
private theorem nextFixed_of_lt (start stop : Nat) (d : Char) (before : start < width)
    (next : NextFixed (run width ++ some c :: layout) start stop d) : stop = width ∧ d = c := by
  have stopAtEnd : stop = width := by
    rcases Nat.lt_trichotomy stop width with inRun | atEnd | beyond
    · have fixed := next.fixed
      rw [anchor_below width c layout stop inRun] at fixed
      cases fixed
    · exact atEnd
    · have between := next.between width before beyond
      rw [anchor_at] at between
      cases between
  subst stop
  have fixed := next.fixed
  rw [anchor_at] at fixed
  cases fixed
  exact ⟨rfl, rfl⟩

end Run

theorem Carries.cons {layout : Layout} {text : List Char} (carries : Carries layout text)
    (slot : Option Char) (d : Char) (same : ∀ c, slot = some c → d = c) :
    Carries (slot :: layout) (d :: text) := by
  refine ⟨congrArg (· + 1) carries.length_eq, ?_⟩
  intro position c fixed
  cases position with
  | zero => exact congrArg some (same c (Option.some.inj fixed))
  | succ position => exact carries.shows position c fixed

theorem Carries.tail {layout : Layout} {text : List Char} {slot : Option Char} {d : Char}
    (carries : Carries (slot :: layout) (d :: text)) : Carries layout text :=
  ⟨Nat.succ.inj carries.length_eq, fun position => carries.shows (position + 1)⟩

/-! ### Run by run -/

theorem data_run_eq_take (count : Nat) (text : List Char) :
    data (run count) text = text.take count := by
  induction count generalizing text with
  | zero => rfl
  | succ count ih =>
      cases text with
      | nil => rfl
      | cons d later => exact congrArg (d :: ·) (ih later)

theorem data_run (text : List Char) : data (run text.length) text = text := by
  rw [data_run_eq_take, List.take_length]

theorem data_parts (left right : Layout) (front back : List Char)
    (sameLength : front.length = left.length) :
    data (left ++ right) (front ++ back) = data left front ++ data right back := by
  induction left generalizing front with
  | nil =>
      cases front with
      | nil => rfl
      | cons d rest => cases sameLength
  | cons slot left ih =>
      cases front with
      | nil => cases sameLength
      | cons d rest =>
          have further := ih rest (Nat.succ.inj sameLength)
          cases slot with
          | none => exact congrArg (d :: ·) further
          | some c => exact further

theorem data_append (front : List Char) (layout : Layout) (text : List Char) :
    data (run front.length ++ layout) (front ++ text) = front ++ data layout text := by
  rw [data_parts _ _ _ _ (run_length _).symm, data_run]

theorem data_length (layout : Layout) (text : List Char)
    (sameLength : text.length = layout.length) :
    (data layout text).length = layout.count none := by
  induction layout generalizing text with
  | nil => cases text <;> rfl
  | cons slot rest ih =>
      cases text with
      | nil => cases sameLength
      | cons d later =>
          have further := ih later (Nat.succ.inj sameLength)
          cases slot with
          | none =>
              rw [List.count_cons_self, ← further]
              rfl
          | some c =>
              rw [List.count_cons_of_ne (by simp), ← further]
              rfl

theorem carries_run (width : Nat) (text : List Char) :
    Carries (run width) text ↔ text.length = width := by
  constructor
  · intro carries
    rw [carries.length_eq, run_length]
  · intro sameLength
    refine ⟨by rw [sameLength, run_length], ?_⟩
    intro position c fixed
    have member := List.mem_of_getElem? fixed
    cases List.eq_of_mem_replicate member

theorem carries_anchor (width : Nat) (c : Char) (layout : Layout) (text : List Char) :
    Carries (run width ++ some c :: layout) text ↔
      ∃ front later, text = front ++ c :: later ∧ front.length = width ∧
        Carries layout later := by
  constructor
  · intro carries
    have total := carries.length_eq
    rw [List.length_append, run_length, List.length_cons] at total
    have atEnd := carries.shows width c (anchor_at width c layout)
    obtain ⟨inside, same⟩ := List.getElem?_eq_some_iff.mp atEnd
    have parts : text = text.take width ++ c :: text.drop (width + 1) := by
      rw [← same, List.getElem_cons_drop, List.take_append_drop]
    have frontLength : (text.take width).length = width := by
      rw [List.length_take]
      omega
    refine ⟨text.take width, text.drop (width + 1), parts, frontLength, ?_, ?_⟩
    · rw [List.length_drop]
      omega
    · intro position d fixed
      rw [List.getElem?_drop]
      apply carries.shows
      rw [anchor_beyond]
      exact fixed
  · intro ⟨front, later, parts, frontLength, rest⟩
    subst text width
    refine ⟨?_, ?_⟩
    · rw [List.length_append, List.length_append, run_length, List.length_cons,
        List.length_cons, rest.length_eq]
    · intro position d fixed
      rcases Nat.lt_trichotomy position front.length with inRun | atEnd | beyond
      · rw [anchor_below _ c layout position inRun] at fixed
        cases fixed
      · subst position
        rw [anchor_at] at fixed
        cases fixed
        exact getElem?_middle front later c
      · obtain ⟨offset, same⟩ : ∃ offset, position = front.length + 1 + offset :=
          ⟨position - (front.length + 1), by omega⟩
        subst position
        rw [anchor_beyond] at fixed
        rw [getElem?_back]
        exact rest.shows offset d fixed

theorem aligned_run (width : Nat) (text : List Char) :
    Aligned (run width) text ↔ text.length = width := by
  constructor
  · intro aligned
    exact (carries_run width text).mp aligned.toCarries
  · intro sameLength
    refine ⟨(carries_run width text).mpr sameLength, ?_⟩
    intro start stop c _slot next
    have member := List.mem_of_getElem? next.fixed
    cases List.eq_of_mem_replicate member

theorem aligned_anchor (width : Nat) (c : Char) (layout : Layout) (text : List Char) :
    Aligned (run width ++ some c :: layout) text ↔
      ∃ front later, text = front ++ c :: later ∧ front.length = width ∧ c ∉ front ∧
        Aligned layout later := by
  constructor
  · intro aligned
    obtain ⟨front, later, parts, frontLength, rest⟩ :=
      (carries_anchor width c layout text).mp aligned.toCarries
    refine ⟨front, later, parts, frontLength, ?_, rest, ?_⟩
    · intro member
      obtain ⟨start, inFront, same⟩ := List.getElem_of_mem member
      have before : start < width := by omega
      apply aligned.clear start width c (anchor_below width c layout start before)
        (nextFixed_within width c layout start before)
      rw [parts, List.getElem?_append_left inFront]
      exact List.getElem?_eq_some_iff.mpr ⟨inFront, same⟩
    · intro start stop d slot next held
      apply aligned.clear (width + 1 + start) (width + 1 + stop) d
      · rw [anchor_beyond]
        exact slot
      · exact (nextFixed_beyond width c layout start stop d).mpr next
      · rw [parts, ← frontLength, getElem?_back]
        exact held
  · intro ⟨front, later, parts, frontLength, absent, rest⟩
    refine ⟨(carries_anchor width c layout text).mpr
      ⟨front, later, parts, frontLength, rest.toCarries⟩, ?_⟩
    intro start stop d slot next held
    rcases Nat.lt_trichotomy start width with inRun | atEnd | beyond
    · obtain ⟨_stopAtEnd, same⟩ := nextFixed_of_lt width c layout start stop d inRun next
      subst d
      rw [parts, List.getElem?_append_left (by omega)] at held
      exact absent (List.mem_of_getElem? held)
    · rw [atEnd, anchor_at] at slot
      cases slot
    · have after := next.after
      obtain ⟨offset, same⟩ : ∃ offset, start = width + 1 + offset :=
        ⟨start - (width + 1), by omega⟩
      obtain ⟨stopOffset, stopSame⟩ : ∃ offset, stop = width + 1 + offset :=
        ⟨stop - (width + 1), by omega⟩
      subst start stop
      rw [anchor_beyond] at slot
      rw [parts, ← frontLength, getElem?_back] at held
      exact rest.clear offset stopOffset d slot
        ((nextFixed_beyond width c layout offset stopOffset d).mp next) held

end InputMask.Layout
