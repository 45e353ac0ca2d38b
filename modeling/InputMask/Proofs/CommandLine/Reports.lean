/-
What a check writes, told from the text alone. The lines are numbered from one, and each line that
does not conform is reported by its number and the first position at which it fails.

The second piece of a text is reported as it would be alone, with its numbers raised by the lines
of the first.
-/
import InputMask.Batch
import InputMask.Proofs.Text.Lines

namespace InputMask

def reported (violation? : List Char → Option Nat) (text : List Char) : List (Nat × Nat) :=
  ((Text.lines text).zipIdx 1).filterMap fun (line, number) =>
    (violation? line).map fun slot => (number, slot)

/-- The findings as they are written: line N: slot S, one below the other. -/
def reportText (found : List (Nat × Nat)) : List Char :=
  found.flatMap fun (number, slot) =>
    "line ".toList ++ (toString number).toList ++ ": slot ".toList ++ (toString slot).toList ++
      ['\n']

def raisedBy (count : Nat) (found : List (Nat × Nat)) : List (Nat × Nat) :=
  found.map fun (number, slot) => (number + count, slot)

section Reports

variable (violation? : List Char → Option Nat)

theorem reportText_append (left right : List (Nat × Nat)) :
    reportText (left ++ right) = reportText left ++ reportText right :=
  List.flatMap_append

theorem reportText_eq_nil_iff (found : List (Nat × Nat)) : reportText found = [] ↔ found = [] := by
  cases found with
  | nil => exact iff_of_true rfl rfl
  | cons first rest =>
      have begins : reportText (first :: rest) ≠ [] := List.cons_ne_nil 'l' _
      exact iff_of_false begins (List.cons_ne_nil first rest)

theorem reported_eq_nil_iff (text : List Char) :
    reported violation? text = [] ↔ ∀ line ∈ Text.lines text, violation? line = none := by
  rw [reported, List.filterMap_eq_nil_iff]
  simp only [Option.map_eq_none_iff]
  rw [← List.forall_mem_map (f := Prod.fst) (P := fun line => violation? line = none),
    List.zipIdx_map_fst]

theorem mem_reported_iff (text : List Char) (number slot : Nat) :
    (number, slot) ∈ reported violation? text ↔
      ∃ index line, number = index + 1 ∧ (Text.lines text)[index]? = some line ∧
        violation? line = some slot := by
  simp only [reported, List.mem_filterMap, Option.map_eq_some_iff, Prod.mk.injEq]
  constructor
  · rintro ⟨⟨line, other⟩, numbered, found, violated, same, rfl⟩
    obtain ⟨counted, inText⟩ := List.mk_mem_zipIdx_iff_le_and_getElem?_sub.mp numbered
    exact ⟨other - 1, line, by omega, inText, violated⟩
  · rintro ⟨index, line, rfl, inText, violated⟩
    refine ⟨(line, index + 1), ?_, slot, violated, rfl, rfl⟩
    exact List.mk_mem_zipIdx_iff_le_and_getElem?_sub.mpr ⟨Nat.le_add_left 1 index, inText⟩

theorem reported_ascending (text : List Char) :
    (reported violation? text).Pairwise (fun left right => left.1 < right.1) := by
  have numbers : (((Text.lines text).zipIdx 1).map Prod.snd).Pairwise (· < ·) := by
    rw [List.zipIdx_map_snd]
    exact List.pairwise_lt_range'
  apply List.Pairwise.filterMap _ _ (List.pairwise_map.mp numbers)
  rintro ⟨line, number⟩ ⟨other, later⟩ before found atLine foundLater atLater
  obtain ⟨slot, _violated, rfl⟩ := Option.map_eq_some_iff.mp atLine
  obtain ⟨laterSlot, _laterViolated, rfl⟩ := Option.map_eq_some_iff.mp atLater
  exact before

theorem reported_append_lineFeed (left right : List Char) :
    reported violation? (left ++ '\n' :: right) =
      reported violation? (left ++ ['\n']) ++
        raisedBy (left.count '\n' + 1) (reported violation? right) := by
  rw [reported, Text.lines_append_lineFeed, List.zipIdx_append, List.filterMap_append,
    Text.lines_length, Nat.add_comm 1, ← List.map_snd_add_zipIdx_eq_zipIdx, List.filterMap_map,
    raisedBy, reported, reported, List.map_filterMap]
  refine congrArg (_ ++ ·) (congrArg (List.filterMap · _) (funext ?_))
  rintro ⟨line, number⟩
  cases violated : violation? line with
  | none => simp [violated]
  | some slot => simp [violated]

end Reports

/-! ### The report of a batch -/

private theorem Finding.inLines_eq (violation? : List Char → Option Nat) (number : Nat)
    (lines : List (List Char)) :
    (inLines violation? number lines).map (fun finding => (finding.line, finding.position)) =
      (lines.zipIdx number).filterMap fun (line, number) =>
        (violation? line).map fun slot => (number, slot) := by
  induction lines generalizing number with
  | nil => rfl
  | cons line rest ih =>
      rw [inLines, List.zipIdx_cons]
      cases violated : violation? line with
      | none => simp [violated, ih]
      | some position => simp [violated, ih]

private theorem Finding.report_eq (findings : List Finding) :
    report findings =
      reportText (findings.map fun finding => (finding.line, finding.position)) := by
  rw [report, reportText, List.flatMap_map]
  refine congrArg (List.flatMap · findings) (funext fun finding => ?_)
  simp only [message, String.toList_append]
  rfl

theorem Batch.check_eq (batch : Batch) (text : List Char) :
    batch.check text = reportText (reported batch.violation? text) := by
  rw [check, findings, Finding.report_eq, Finding.inLines_eq]
  rfl

end InputMask
