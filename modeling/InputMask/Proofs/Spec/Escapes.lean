/-
Which characters of a text are escaped. Reading from the left, a backslash escapes the character
after it unless it is escaped itself. Looking back from a place in the text, all that counts is
the run of backslashes directly in front of it: the character there is escaped exactly if their
number is odd.

The first part of a specification is the text before the first semicolon that is not escaped. So
the patterns that can be such a part, `Cuttable`, are those that escape each of their semicolons
and do not escape the one after them.
-/
import Mathlib.Algebra.Ring.Parity
import Mathlib.Data.List.Induction
import InputMask.Proofs.Spec.Semicolons

namespace InputMask.Spec

def finalBackslashes (text : List Char) : Nat := (text.reverse.takeWhile (· == '\\')).length

private theorem finalBackslashes_concat (text : List Char) (c : Char) :
    finalBackslashes (text ++ [c]) = if c = '\\' then finalBackslashes text + 1 else 0 := by
  unfold finalBackslashes
  rw [List.reverse_concat, List.takeWhile_cons]
  by_cases backslash : c = '\\'
  · simp [backslash]
  · simp [backslash]

theorem escapedAfter_concat (escaped : Bool) (text : List Char) (c : Char) :
    escapedAfter escaped (text ++ [c]) = escapesNext (escapedAfter escaped text) c :=
  List.foldl_append

theorem escapedAfter_iff_odd (text : List Char) :
    escapedAfter false text = true ↔ Odd (finalBackslashes text) := by
  -- From the end, since both sides change with the last character only.
  induction text using List.reverseRecOn with
  | nil => simp [escapedAfter, finalBackslashes]
  | append_singleton front c ih =>
      rw [escapedAfter_concat, finalBackslashes_concat]
      by_cases backslash : c = '\\'
      · rw [if_pos backslash, Nat.odd_add_one, ← ih]
        simp [escapesNext, backslash]
      · rw [if_neg backslash]
        simp [escapesNext, backslash]

/-- Each semicolon is escaped. -/
theorem bareSemicolons_eq_zero_iff (escaped : Bool) (text : List Char) :
    bareSemicolons escaped text = 0 ↔
      ∀ front later, text = front ++ ';' :: later → escapedAfter escaped front = true := by
  induction text generalizing escaped with
  | nil => simp [bareSemicolons]
  | cons c rest ih =>
      rw [bareSemicolons, Nat.add_eq_zero_iff, ih]
      constructor
      · intro both front later parts
        obtain ⟨here, beyond⟩ := both
        cases front with
        | nil =>
            cases parts
            cases escaped with
            | true => rfl
            | false => simp at here
        | cons first others =>
            cases parts
            exact beyond others later rfl
      · intro all
        constructor
        · rw [if_neg]
          intro ends
          obtain ⟨semicolon, fresh⟩ := ends
          subst semicolon fresh
          cases all [] rest rfl
        · intro front later parts
          exact all (c :: front) later (congrArg (c :: ·) parts)

/-! ### The cut at the first semicolon that is not escaped -/

theorem bareSemicolons_cutPattern (escaped : Bool) (text : List Char) :
    bareSemicolons escaped (cutPattern escaped text).1 = 0 := by
  induction text generalizing escaped with
  | nil => rfl
  | cons c rest ih =>
      unfold cutPattern
      by_cases ends : c = ';' ∧ escaped = false
      · rw [if_pos ends]
        rfl
      · rw [if_neg ends, bareSemicolons, if_neg ends, Nat.zero_add]
        exact ih (escapesNext escaped c)

private theorem escapedAfter_of_cut (escaped : Bool) {text pattern later : List Char}
    (cut : cutPattern escaped text = (pattern, some later)) :
    escapedAfter escaped pattern = false := by
  induction text generalizing escaped pattern with
  | nil => cases cut
  | cons c rest ih =>
      unfold cutPattern at cut
      by_cases ends : c = ';' ∧ escaped = false
      · rw [if_pos ends] at cut
        cases cut
        exact ends.2
      · rw [if_neg ends] at cut
        obtain ⟨samePattern, sameLater⟩ := Prod.mk.inj cut
        subst pattern
        exact ih (escapesNext escaped c) (Prod.ext rfl sameLater)

private theorem cutPattern_append (escaped : Bool) (pattern later : List Char)
    (noBare : bareSemicolons escaped pattern = 0)
    (complete : escapedAfter escaped pattern = false) :
    cutPattern escaped (pattern ++ ';' :: later) = (pattern, some later) := by
  induction pattern generalizing escaped with
  | nil => exact if_pos ⟨rfl, complete⟩
  | cons c rest ih =>
      rw [bareSemicolons, Nat.add_eq_zero_iff] at noBare
      have continues : ¬(c = ';' ∧ escaped = false) := by
        intro ends
        rw [if_pos ends] at noBare
        cases noBare.1
      have further := ih (escapesNext escaped c) noBare.2 complete
      unfold escapesNext at further
      rw [List.cons_append, cutPattern, if_neg continues, further]

structure Cuttable (pattern : List Char) : Prop where
  semicolons : ∀ front later, pattern = front ++ ';' :: later → Odd (finalBackslashes front)
  complete : Even (finalBackslashes pattern)

theorem cuttable_iff (pattern : List Char) :
    Cuttable pattern ↔ bareSemicolons false pattern = 0 ∧ escapedAfter false pattern = false := by
  have even_iff : escapedAfter false pattern = false ↔ Even (finalBackslashes pattern) := by
    rw [← Nat.not_odd_iff_even, ← escapedAfter_iff_odd, Bool.not_eq_true]
  rw [bareSemicolons_eq_zero_iff, even_iff]
  simp only [escapedAfter_iff_odd]
  constructor
  · intro cuttable
    exact ⟨cuttable.semicolons, cuttable.complete⟩
  · intro ⟨semicolons, complete⟩
    exact ⟨semicolons, complete⟩

theorem cutPattern_eq_some_iff (text pattern later : List Char) :
    cutPattern false text = (pattern, some later) ↔
      text = pattern ++ ';' :: later ∧ Cuttable pattern := by
  rw [cuttable_iff]
  constructor
  · intro cut
    have noBare := bareSemicolons_cutPattern false text
    rw [cut] at noBare
    exact ⟨cutPattern_some false text pattern later cut, noBare, escapedAfter_of_cut false cut⟩
  · intro ⟨parts, noBare, complete⟩
    rw [parts]
    exact cutPattern_append false pattern later noBare complete

theorem semicolon_escaped_of_uncut {text pattern : List Char}
    (uncut : cutPattern false text = (pattern, none)) {front later : List Char}
    (parts : text = front ++ ';' :: later) : escapedAfter false front = true := by
  have noBare := bareSemicolons_cutPattern false text
  rw [uncut, ← cutPattern_none false text pattern uncut] at noBare
  exact (bareSemicolons_eq_zero_iff false text).mp noBare front later parts

end InputMask.Spec
