/-
The parts of a text that is read as a specification. The text is cut at its first semicolon that
is not escaped, and what follows is cut at every semicolon, since nothing is escaped there. Each
character of the flag and of the placeholder overwrites the one before it, so of these parts only
the last character counts; of the parts after them nothing does.
-/
import InputMask.Proofs.Spec.Escapes

namespace InputMask.Spec

section Overwriting

variable {part : List Char} (absent : ';' ∉ part) (rest : List Char)

include absent

private theorem readFlag_append (flag : Bool) :
    readFlag flag (part ++ rest) =
      readFlag ((part.getLast?.map (· != '0')).getD flag) rest := by
  induction part generalizing flag with
  | nil => rfl
  | cons c part ih =>
      have continues : c ≠ ';' := (List.ne_of_not_mem_cons absent).symm
      have further := ih (List.not_mem_of_not_mem_cons absent) (c != '0')
      rw [List.cons_append, readFlag, if_neg continues, further, List.getLast?_cons]
      cases part.getLast? <;> rfl

private theorem readSpace_append (space : Char) :
    readSpace space (part ++ rest) = readSpace (part.getLast?.getD space) rest := by
  induction part generalizing space with
  | nil => rfl
  | cons c part ih =>
      have continues : c ≠ ';' := (List.ne_of_not_mem_cons absent).symm
      have further := ih (List.not_mem_of_not_mem_cons absent) c
      rw [List.cons_append, readSpace, if_neg continues, further, List.getLast?_cons]
      rfl

end Overwriting

/-- A text is one part, or a part and a semicolon and the text of the parts after it. -/
theorem part_cases (text : List Char) :
    (';' ∉ text ∧ text.splitOn ';' = [text]) ∨
      ∃ part later, text = part ++ ';' :: later ∧ ';' ∉ part ∧
        text.splitOn ';' = part :: later.splitOn ';' := by
  by_cases semicolon : ';' ∈ text
  · obtain ⟨part, later, parts, absent⟩ := List.eq_append_cons_of_mem semicolon
    refine Or.inr ⟨part, later, parts, absent, ?_⟩
    rw [parts, List.splitOn_append_cons_self_of_not_mem absent]
  · exact Or.inl ⟨semicolon, List.splitOn_eq_singleton semicolon⟩

private theorem readSpace_eq (space : Char) (text : List Char) :
    readSpace space text = ((text.splitOn ';').getD 0 []).getLast?.getD space := by
  rcases part_cases text with ⟨absent, whole⟩ | ⟨part, later, parts, absent, split⟩
  · have read := readSpace_append absent [] space
    rw [List.append_nil] at read
    rw [whole, read]
    rfl
  · rw [split, parts, readSpace_append absent]
    rfl

/-- An empty part leaves the flag on. -/
private theorem flag_of_last (last? : Option Char) :
    (last?.map (· != '0')).getD true = (last? != some '0') := by
  cases last? <;> rfl

private theorem ofText_of_cut (defaultSpace : Char) {text pattern later : List Char}
    (cut : cutPattern false text = (pattern, some later)) :
    let parts := later.splitOn ';'
    ofText defaultSpace text =
      ⟨pattern, (parts.getD 0 []).getLast? != some '0',
        (parts.getD 1 []).getLast?.getD defaultSpace⟩ := by
  unfold ofText
  rw [cut]
  rcases part_cases later with ⟨absent, whole⟩ | ⟨part, last, parts, absent, split⟩
  · have read := readFlag_append absent [] true
    rw [List.append_nil, flag_of_last] at read
    simp only [whole, read]
    rfl
  · have read := readFlag_append absent (';' :: last) true
    rw [← parts, flag_of_last] at read
    have ended (flag : Bool) : readFlag flag (';' :: last) = (flag, some last) := if_pos rfl
    simp only [split, read, ended, readSpace_eq]
    rfl

theorem cuttable_unique {text pattern later other rest : List Char}
    (cut : cutPattern false text = (pattern, some later)) (parts : text = other ++ ';' :: rest)
    (cuttable : Cuttable other) : other = pattern := by
  have otherCut := (cutPattern_eq_some_iff text other rest).mpr ⟨parts, cuttable⟩
  rw [cut] at otherCut
  exact (congrArg Prod.fst otherCut).symm

/-- Every text is read by its parts. The pattern is the whole text if each semicolon is escaped;
otherwise there is exactly one place to cut, and the flag and the placeholder are the last
characters of the first two parts of what follows. -/
theorem text_read_by_parts (defaultSpace : Char) (text : List Char) :
    let uncut := ∀ front later, text = front ++ ';' :: later → Odd (finalBackslashes front)
    (uncut → ofText defaultSpace text = ⟨text, true, defaultSpace⟩) ∧
      (¬uncut → ∃ pattern later, (text = pattern ++ ';' :: later ∧ Cuttable pattern) ∧
        (∀ other rest, text = other ++ ';' :: rest → Cuttable other → other = pattern) ∧
        let parts := later.splitOn ';'
        ofText defaultSpace text =
          ⟨pattern, (parts.getD 0 []).getLast? != some '0',
            (parts.getD 1 []).getLast?.getD defaultSpace⟩) := by
  intro uncut
  cases cut : cutPattern false text with
  | mk pattern later? =>
      cases later? with
      | none =>
          have whole : text = pattern := cutPattern_none false text pattern cut
          have allEscaped : uncut := by
            intro front later parts
            exact (escapedAfter_iff_odd front).mp (semicolon_escaped_of_uncut cut parts)
          refine ⟨?_, fun notUncut => absurd allEscaped notUncut⟩
          intro _uncut
          unfold ofText
          rw [cut, ← whole]
      | some later =>
          obtain ⟨parts, cuttable⟩ := (cutPattern_eq_some_iff text pattern later).mp cut
          have notUncut : ¬uncut := by
            intro allEscaped
            exact Nat.not_odd_iff_even.mpr cuttable.complete (allEscaped pattern later parts)
          refine ⟨fun isUncut => absurd isUncut notUncut, ?_⟩
          intro _notUncut
          refine ⟨pattern, later, ⟨parts, cuttable⟩, ?_, ofText_of_cut defaultSpace cut⟩
          intro other rest otherParts otherCuttable
          exact cuttable_unique cut otherParts otherCuttable

/-- The second backslash is escaped, so the semicolon behind it is not. -/
example : ofText '_' ['9', '\\', '\\', ';', '1', '0', ';', ';', '*'] =
    ⟨['9', '\\', '\\'], false, '_'⟩ := rfl

end InputMask.Spec
