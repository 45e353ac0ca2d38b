/-
Rendering a specification and reading the text again. Rendering escapes nothing, so a pattern can
be cut short at a semicolon of its own, or can swallow the semicolon that should end it together
with the flag. Neither happens twice: what has been read from a rendered text is read from its
own rendered text unchanged.
-/
import InputMask.Proofs.Spec.Escapes

namespace InputMask.Spec

/-- The text of the specification has its parts where the reader looks for them. A semicolon is
read as the placeholder only if it is the placeholder that nobody needs to name. -/
structure Rereadable (defaultSpace : Char) (spec : Spec) : Prop where
  cuttable : Cuttable spec.pattern
  placeholder : spec.spacePlaceholder ≠ ';' ∨ defaultSpace = ';'

private theorem eq_semicolon_of_readSpace {space : Char} {text : List Char}
    (semicolon : readSpace space text = ';') : space = ';' := by
  induction text generalizing space with
  | nil => exact semicolon
  | cons c rest ih =>
      unfold readSpace at semicolon
      by_cases ends : c = ';'
      · rw [if_pos ends] at semicolon
        exact semicolon
      · rw [if_neg ends] at semicolon
        exact absurd (ih semicolon) ends

/-- The semicolon after the flag is not escaped, since the flag is no backslash. So the text is cut
there if not before. -/
private theorem exists_cut_render (spec : Spec) :
    ∃ pattern later, cutPattern false spec.render = (pattern, some later) := by
  cases cut : cutPattern false spec.render with
  | mk pattern later? =>
      cases later? with
      | some later => exact ⟨pattern, later, rfl⟩
      | none =>
          have parts : spec.render =
              (spec.pattern ++ [';'] ++ [flagSign spec.saveFormatted]) ++
                ';' :: [spec.spacePlaceholder] := by
            simp [render]
          have escaped := semicolon_escaped_of_uncut cut parts
          rw [escapedAfter_concat] at escaped
          cases flag : spec.saveFormatted <;> rw [flag] at escaped <;> cases escaped

theorem rereadable_ofText_of_cut (defaultSpace : Char) {text pattern later : List Char}
    (cut : cutPattern false text = (pattern, some later)) :
    Rereadable defaultSpace (ofText defaultSpace text) := by
  have cuttable := ((cutPattern_eq_some_iff text pattern later).mp cut).2
  have named (space : Char) (given : space = ';' → defaultSpace = ';') (flag : Bool) :
      Rereadable defaultSpace ⟨pattern, flag, space⟩ :=
    ⟨cuttable, (Decidable.em (space = ';')).symm.imp_right given⟩
  unfold ofText
  rw [cut]
  dsimp only
  cases readFlag true later with
  | mk flag last? =>
      cases last? with
      | none => exact named defaultSpace id flag
      | some last => exact named _ eq_semicolon_of_readSpace flag

theorem ofText_render_of_rereadable {defaultSpace : Char} {spec : Spec}
    (rereadable : Rereadable defaultSpace spec) : ofText defaultSpace spec.render = spec := by
  obtain ⟨pattern, flag, space⟩ := spec
  obtain ⟨cuttable, placeholder⟩ := rereadable
  have cut : cutPattern false (render ⟨pattern, flag, space⟩) =
      (pattern, some [flagSign flag, ';', space]) :=
    (cutPattern_eq_some_iff _ _ _).mpr ⟨rfl, cuttable⟩
  have readFlag_sign : readFlag true [flagSign flag, ';', space] = (flag, some [space]) := by
    cases flag <;> rfl
  have readSpace_single : readSpace defaultSpace [space] = space := by
    by_cases semicolon : space = ';'
    · have same := placeholder.resolve_left (not_not_intro semicolon)
      rw [readSpace, if_pos semicolon, same, semicolon]
    · exact if_neg semicolon
  unfold ofText
  rw [cut]
  simp only [readFlag_sign, readSpace_single]

theorem rereadable_ofText_render (defaultSpace : Char) (spec : Spec) :
    Rereadable defaultSpace (ofText defaultSpace spec.render) := by
  obtain ⟨pattern, later, cut⟩ := spec.exists_cut_render
  exact rereadable_ofText_of_cut defaultSpace cut

theorem rerendering_is_projection (defaultSpace : Char) (spec : Spec) :
    let reread (spec : Spec) := ofText defaultSpace spec.render
    (reread spec = spec ↔
        (∀ front later, spec.pattern = front ++ ';' :: later → Odd (finalBackslashes front)) ∧
          ¬Odd (finalBackslashes spec.pattern) ∧
          (spec.spacePlaceholder ≠ ';' ∨ defaultSpace = ';')) ∧
      reread (reread spec) = reread spec := by
  intro reread
  have rereadable : Rereadable defaultSpace (reread spec) :=
    rereadable_ofText_render defaultSpace spec
  refine ⟨?_, ofText_render_of_rereadable rereadable⟩
  constructor
  · intro same
    rw [same] at rereadable
    exact ⟨rereadable.cuttable.semicolons, Nat.not_odd_iff_even.mpr rereadable.cuttable.complete,
      rereadable.placeholder⟩
  · intro ⟨semicolons, complete, placeholder⟩
    exact ofText_render_of_rereadable
      ⟨⟨semicolons, Nat.not_odd_iff_even.mp complete⟩, placeholder⟩

/-- The backslash makes the semicolon after it a part of the pattern, and the flag with it. The
placeholder is then read as the flag. -/
example : ofText '_' (render ⟨['9', '\\'], false, '*'⟩) = ⟨['9', '\\', ';', '0'], true, '_'⟩ :=
  rfl

end InputMask.Spec
