/-
Cutting a text at the first occurrence of a character. The main statement, `cutAt?_eq_some_iff`,
says that the pieces around the character make up the text and that the first piece lacks it.
-/

namespace InputMask.Text

def cutAt? (c : Char) : List Char → Option (List Char × List Char)
  | [] => none
  | d :: rest =>
      if d = c then some ([], rest)
      else (cutAt? c rest).map (fun (piece, later) => (d :: piece, later))

theorem cutAt?_eq_some_iff (c : Char) (text piece later : List Char) :
    cutAt? c text = some (piece, later) ↔ text = piece ++ c :: later ∧ c ∉ piece := by
  induction text generalizing piece with
  | nil =>
      constructor
      · exact nofun
      · rintro ⟨same, _absent⟩
        exact absurd same.symm (List.append_ne_nil_of_right_ne_nil piece (List.cons_ne_nil c later))
  | cons d rest ih =>
      unfold cutAt?
      by_cases found : d = c
      · subst d
        rw [if_pos rfl]
        constructor
        · intro same
          cases same
          exact ⟨rfl, List.not_mem_nil⟩
        · rintro ⟨same, absent⟩
          cases piece with
          | nil =>
              cases same
              rfl
          | cons first others =>
              rw [List.cons_append, List.cons.injEq] at same
              exact absurd (same.1 ▸ List.mem_cons_self) absent
      · rw [if_neg found]
        constructor
        · intro mapped
          obtain ⟨⟨inner, after⟩, cut, same⟩ := Option.map_eq_some_iff.mp mapped
          cases same
          obtain ⟨restSame, absent⟩ := (ih inner).mp cut
          refine ⟨congrArg (d :: ·) restSame, ?_⟩
          intro member
          rcases List.mem_cons.mp member with here | deeper
          · exact found here.symm
          · exact absent deeper
        · rintro ⟨same, absent⟩
          cases piece with
          | nil =>
              rw [List.nil_append, List.cons.injEq] at same
              exact absurd same.1 found
          | cons first others =>
              rw [List.cons_append, List.cons.injEq] at same
              obtain ⟨sameFirst, sameRest⟩ := same
              subst first
              have cut := (ih others).mpr
                ⟨sameRest, fun member => absent (List.mem_cons_of_mem d member)⟩
              rw [cut]
              rfl

end InputMask.Text
