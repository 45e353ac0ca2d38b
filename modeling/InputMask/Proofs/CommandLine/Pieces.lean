/-
Working through a text in pieces. A text may be cut after any line end: what comes of the whole
is what comes of the one piece followed by what comes of the other, except that a report goes on
counting the lines where the first piece ended.

A check ends with the exit code one exactly if it has something to report, unless the standard
output does not take the report.
-/
import InputMask.Proofs.CommandLine.Runs

namespace InputMask.CommandLine

section Checking

variable {σ : Type} {system : System (StateM σ)} {state : σ} {job : Job} {mask : Mask}
  {text : List Char}

/-- A report that a file does not take ends the run with the same code. -/
private theorem Job.run_check_code (checking : job.operation = .check)
    (compiled : job.spec.mask = .ok mask)
    (readable : decoded ((system.read (Source.ofName job.input?)).run state).1 = .ok text)
    (taken : ¬job.Clean mask text → job.output? = none →
      ((system.write .standardOutput
          (job.operation.result mask job.spec job.separators text)).run
        ((system.read (Source.ofName job.input?)).run state).2).1 = none) :
    (job.plan.run system state).1.code = 1 ↔ ¬job.Clean mask text := by
  rw [run_of_text compiled readable]
  by_cases clean : job.Clean mask text
  · rw [conclude_of_clean clean]
    exact iff_of_false nofun (not_not_intro clean)
  · rw [conclude_of_unclean clean, Plan.run_deliver]
    refine iff_of_true ?_ clean
    rw [checking] at taken ⊢
    cases named : job.output? with
    | none =>
        dsimp only [Target.ofName]
        rw [taken clean named]
        rfl
    | some name =>
        dsimp only [Target.ofName]
        cases ((system.write (.file name) _).run _).1 <;> rfl

end Checking

theorem text_worked_in_pieces (spec : Spec) (mask : Mask) (separators : Separators)
    (left right : List Char) (compiled : spec.mask = .ok mask) :
    let produced (operation : Operation) (text : List Char) : List Char :=
      (Job.onStreams operation spec separators).output text
    let found := reported (mask.violation? separators spec.spacePlaceholder) right
    produced .apply (left ++ '\n' :: right) =
        produced .apply (left ++ ['\n']) ++ produced .apply right ∧
      produced .remove (left ++ '\n' :: right) =
        produced .remove (left ++ ['\n']) ++ produced .remove right ∧
      (produced .check right = reportText found ∧
        produced .check (left ++ '\n' :: right) =
          produced .check (left ++ ['\n']) ++
            reportText (raisedBy (left.count '\n' + 1) found)) ∧
      ∀ (σ : Type) (system : System (StateM σ)) (job : Job) (before : σ) (text : List Char),
        let read := (system.read (Source.ofName job.input?)).run before
        job.operation = .check → job.spec = spec → job.separators = separators →
          read.1 = .ok (String.ofList text).toUTF8 →
          (produced .check text ≠ [] → job.output? = none →
            ((system.write .standardOutput (produced .check text)).run read.2).1 = none) →
          ((job.plan.run system before).1.code = 1 ↔ produced .check text ≠ []) := by
  intro produced found
  have result (operation : Operation) (text : List Char) :
      produced operation text = operation.result mask spec separators text :=
    Job.output_eq operation compiled separators text
  simp only [result]
  refine ⟨?_, ?_, ⟨rfl, ?_⟩, ?_⟩
  · exact Text.mapLines_append_lineFeed _ left right
  · exact Text.mapLines_append_lineFeed _ left right
  · simp only [Operation.result]
    rw [reported_append_lineFeed, reportText_append]
  · intro σ system job before text checking sameSpec sameSeparators isText taken
    subst sameSpec sameSeparators
    have readable : decoded ((system.read (Source.ofName job.input?)).run before).1 =
        .ok text := by
      rw [isText]
      exact decoded_toUTF8 text
    have unclean_iff : ¬job.Clean mask text ↔
        Operation.result mask job.spec job.separators text .check ≠ [] := by
      rw [Operation.result, ne_eq, reportText_eq_nil_iff, reported_eq_nil_iff, Job.Clean,
        and_iff_right checking]
    rw [← unclean_iff] at taken ⊢
    exact Job.run_check_code checking compiled readable (checking ▸ taken)

/-- The return in front of the cut belongs to the end of its line, the last one to its line. -/
theorem text_worked_in_pieces_returns :
    let mask : Mask := ⟨[.typed ⟨.digit, true, .unchanged⟩], false⟩
    let spec : Spec := ⟨['0'], true, '_'⟩
    let left := ['1', '\n', '2', '\r']
    let right := ['x', '\n', '3', '\r']
    let checked := (Job.onStreams .check spec {}).output
    spec.mask = .ok mask ∧
      checked right = "line 1: slot 0\nline 2: slot 1\n".toList ∧
      checked (left ++ '\n' :: right) =
        checked (left ++ ['\n']) ++ "line 3: slot 0\nline 4: slot 1\n".toList ∧
      ((Job.onStreams .check spec {}).plan.run Folder.system
        ⟨fun _ => none, (String.ofList right).toUTF8, []⟩).1.code = 1 := by
  intro mask spec left right checked
  have compiled : spec.mask = .ok mask := rfl
  obtain ⟨_applied, _removed, ⟨alone, whole⟩, code⟩ :=
    text_worked_in_pieces spec mask {} left right compiled
  have found : reported (mask.violation? {} spec.spacePlaceholder) right = [(1, 0), (2, 1)] := by
    decide
  rw [found] at alone whole
  refine ⟨compiled, alone.trans (by decide), whole.trans (congrArg _ (by decide)), ?_⟩
  apply (code Folder Folder.system _ _ right rfl rfl rfl rfl (fun _found _unnamed => rfl)).mpr
  rw [alone]
  exact List.cons_ne_nil 'l' _

end InputMask.CommandLine
