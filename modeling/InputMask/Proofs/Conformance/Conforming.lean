/-
Filling a mask with a formatted value that conforms to it. Conforming is a matter of positions,
while filling looks for the fixed characters from the left, so the two can differ about a value
whose data repeats a fixed character. A value that conforms carries the mask; whether it is kept
as it is then depends on alignment alone.
-/
import Mathlib.Data.List.Forall2
import InputMask.Conformance
import InputMask.Proofs.Filling.Projection
import InputMask.Proofs.Filling.Recovery
import InputMask.Spec.Values

namespace InputMask

theorem Element.holds_fixed_iff {separators : Separators} {element : Element} {fixed : Char}
    (shown : element.fixed? separators = some fixed) (space c : Char) :
    element.holds separators space c = true ↔ c = fixed := by
  rw [holds, shown]
  exact beq_iff_eq

theorem firstViolation?_eq_none_iff (separators : Separators) (space : Char)
    (elements : List Element) (value : List Char) :
    firstViolation? separators space elements value = none ↔
      List.Forall₂ (fun element c => element.holds separators space c = true) elements value := by
  induction elements generalizing value with
  | nil => cases value <;> simp [firstViolation?]
  | cons element rest ih =>
      cases value with
      | nil => simp [firstViolation?]
      | cons c later =>
          rw [List.forall₂_cons, firstViolation?, ← ih]
          by_cases held : element.holds separators space c = true
          · simp [held]
          · simp [held]

namespace Mask

theorem carries_of_conforming {mask : Mask} {separators : Separators} {space : Char}
    {value : List Char} (conforming : mask.violation? separators space value = none) :
    (mask.layout separators).Carries value := by
  obtain ⟨elements, rightToLeft⟩ := mask
  have held := (firstViolation?_eq_none_iff separators space elements value).mp conforming
  clear conforming
  induction held with
  | nil => exact ⟨rfl, nofun⟩
  | cons here _beyond ih =>
      apply ih.cons
      intro fixed shown
      exact (Element.holds_fixed_iff shown space _).mp here

/-- A data slot that holds the fixed character after it ends its run too early. If there is none,
filling keeps the value; if there is one, removing loses a character. -/
theorem conforming_value_kept (mask : Mask) (separators : Separators) (space : Char)
    (value : List Char) (conforming : mask.violation? separators space value = none) :
    let layout := mask.layout separators
    let removed := mask.remove separators true value
    let mistaken := ∃ (start stop : Nat) (c : Char), layout[start]? = some none ∧
      layout.NextFixed start stop c ∧ value[start]? = some c
    (¬mistaken → mask.apply separators true space value = value ∧ removed = layout.data value) ∧
      (mistaken → removed.length < (layout.data value).length) := by
  intro layout removed mistaken
  have carries : layout.Carries value := carries_of_conforming conforming
  constructor
  · intro unmistaken
    have aligned : layout.Aligned value := by
      refine ⟨carries, ?_⟩
      intro start stop c slot next held
      exact unmistaken ⟨start, stop, c, slot, next, held⟩
    exact ⟨mask.apply_formatted_of_aligned separators space value aligned,
      mask.remove_formatted_of_aligned separators value aligned⟩
  · intro ⟨start, stop, c, slot, next, held⟩
    have unaligned : ¬layout.Aligned value :=
      fun aligned => aligned.clear start stop c slot next held
    rw [layout.data_length value carries.length_eq, mask.layout_count_none]
    exact mask.remove_formatted_length_lt separators value carries unaligned

/-- The last slot holds a dash as well, but no dash comes after it. -/
theorem conforming_value_kept_last_sign :
    let mask : Mask :=
      ⟨[.typed ⟨.digit, true, .unchanged⟩, .literal '-', .typed ⟨.signedDigit, false, .unchanged⟩],
        false⟩
    mask.violation? {} '_' ['5', '-', '-'] = none ∧
      mask.apply {} true '_' ['5', '-', '-'] = ['5', '-', '-'] ∧
      mask.remove {} true ['5', '-', '-'] = ['5', '-'] := by
  intro mask
  have conforming : mask.violation? {} '_' ['5', '-', '-'] = none := rfl
  have unmistaken : ¬∃ (start stop : Nat) (c : Char), (mask.layout {})[start]? = some none ∧
      (mask.layout {}).NextFixed start stop c ∧ ['5', '-', '-'][start]? = some c := by
    intro ⟨start, stop, c, _slot, next, held⟩
    obtain ⟨after, fixed, _between⟩ := next
    change [none, some '-', none][stop]? = some (some c) at fixed
    match stop with
    | 0 => omega
    | 1 =>
        cases fixed
        have first : start = 0 := by omega
        subst first
        cases held
    | 2 => cases fixed
    | _ + 3 => cases fixed
  have kept := (mask.conforming_value_kept {} '_' ['5', '-', '-'] conforming).1 unmistaken
  exact ⟨conforming, kept.1, kept.2⟩

/-- The sign in front of a dash conforms and is taken for the dash. -/
theorem conforming_sign_taken_for_dash :
    let mask : Mask :=
      ⟨[.typed ⟨.signedDigit, false, .unchanged⟩, .literal '-', .typed ⟨.digit, true, .unchanged⟩],
        false⟩
    let value := ['-', '-', '5']
    let applied := mask.apply {} true '_' value
    let removed := mask.remove {} true value
    ofPattern ['#', '-', '0'] = .ok mask ∧ mask.violation? {} '_' value = none ∧
      (applied = ['_', '-', '-'] ∧ removed = ['-']) ∧
      ¬(applied = value ∧ removed = (mask.layout {}).data value) := by
  intro mask value applied removed
  exact ⟨rfl, rfl, ⟨rfl, rfl⟩, by decide⟩

end Mask

end InputMask
