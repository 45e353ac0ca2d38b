/-
Runs of a job. What a job does with its input is told line by line, and a run whose mask denotes
and whose input is a text comes down to handing over that result, or to nothing if it is a check
without findings. All this holds on every system, whatever its steps do.

Between the standard streams a run is a function of texts. For that the smallest system is enough.
-/
import Mathlib.Logic.Function.Basic
import InputMask.CommandLine.Program
import InputMask.Proofs.CommandLine.Reports

namespace InputMask.CommandLine

def Operation.result (mask : Mask) (spec : Spec) (separators : Separators) (text : List Char) :
    Operation → List Char
  | .apply => (Text.lines text).flatMap fun line =>
      mask.apply separators spec.saveFormatted spec.spacePlaceholder line ++ ['\n']
  | .remove => (Text.lines text).flatMap fun line =>
      mask.remove separators spec.saveFormatted line ++ ['\n']
  | .check => reportText (reported (mask.violation? separators spec.spacePlaceholder) text)

def Operation.exit : Operation → Exit
  | .apply | .remove => .success
  | .check => .nonconforming

def Job.Clean (job : Job) (mask : Mask) (text : List Char) : Prop :=
  job.operation = .check ∧ ∀ line ∈ Text.lines text,
    mask.violation? job.separators job.spec.spacePlaceholder line = none

theorem Job.conclude_of_clean {job : Job} {mask : Mask} {text : List Char}
    (clean : job.Clean mask text) : job.conclude mask text = .finish .success := by
  have nothing : (Batch.mk mask job.spec job.separators).check text = [] := by
    rw [Batch.check_eq, reportText_eq_nil_iff, reported_eq_nil_iff]
    exact clean.2
  rw [conclude, clean.1]
  exact if_pos (List.isEmpty_iff.mpr nothing)

theorem Job.conclude_of_unclean {job : Job} {mask : Mask} {text : List Char}
    (unclean : ¬job.Clean mask text) :
    job.conclude mask text =
      .deliver (Target.ofName job.output?)
        (job.operation.result mask job.spec job.separators text) job.operation.exit := by
  unfold conclude
  cases operation : job.operation with
  | apply => rfl
  | remove => rfl
  | check =>
      have something : ¬(Batch.mk mask job.spec job.separators).check text = [] := by
        rw [Batch.check_eq, reportText_eq_nil_iff, reported_eq_nil_iff]
        exact fun conforming => unclean ⟨operation, conforming⟩
      dsimp only
      rw [if_neg (mt List.isEmpty_iff.mp something), Batch.check_eq]
      rfl

/-! ### Runs on any system -/

theorem decoded_toUTF8 (text : List Char) :
    decoded (.ok (String.ofList text).toUTF8) = .ok text := by
  have read : String.fromUTF8? (String.ofList text).toUTF8 = some (String.ofList text) := by
    rw [String.fromUTF8?, String.toUTF8_eq_toByteArray, dif_pos (String.ofList text).isValidUTF8]
    rfl
  rw [decoded, read]
  exact congrArg Except.ok String.toList_ofList

section AnySystem

variable {σ : Type} (system : System (StateM σ)) (state : σ)

def Plan.run (plan : Plan) : Exit × σ := (plan.perform system).run state

theorem Plan.run_read (source : Source) (next : Except SystemFault ByteArray → Plan) :
    (Plan.read source next).run system state =
      let outcome := (system.read source).run state
      (next outcome.1).run system outcome.2 :=
  rfl

theorem Plan.run_write (target : Target) (text : List Char) (next : Option SystemFault → Plan) :
    (Plan.write target text next).run system state =
      let written := (system.write target text).run state
      (next written.1).run system written.2 :=
  rfl

theorem Plan.run_deliver (target : Target) (text : List Char) (exit : Exit) :
    (deliver target text exit).run system state =
      let written := (system.write target text).run state
      ((written.1.map target.refused).getD exit, written.2) := by
  rw [deliver, run_write]
  dsimp only
  cases ((system.write target text).run state).1 <;> rfl

variable {system state} {job : Job} {mask : Mask} {text : List Char}

theorem Job.run_of_fault {fault : Fault} (unread : job.spec.mask = .error fault) :
    (job.plan.run system state).2 = state := by
  rw [plan, Plan.withMask, unread]
  rfl

theorem Job.run_of_unreadable {cause : String} (compiled : job.spec.mask = .ok mask)
    (unreadable : decoded ((system.read (Source.ofName job.input?)).run state).1 = .error cause) :
    (job.plan.run system state).2 = ((system.read (Source.ofName job.input?)).run state).2 := by
  rw [plan, Plan.withMask, compiled]
  simp only [Plan.readText, Plan.run_read, unreadable]
  rfl

theorem Job.run_of_text (compiled : job.spec.mask = .ok mask)
    (readable : decoded ((system.read (Source.ofName job.input?)).run state).1 = .ok text) :
    job.plan.run system state =
      (job.conclude mask text).run system
        ((system.read (Source.ofName job.input?)).run state).2 := by
  rw [plan, Plan.withMask, compiled]
  simp only [Plan.readText, Plan.run_read, readable]

end AnySystem

/-! ### Runs between the standard streams -/

/-- Files by their names, the bytes at the standard input, and the text on the standard output.
Nothing is refused but a file that is missing. -/
structure Folder where
  content? : List Char → Option ByteArray
  input : ByteArray
  output : List Char

def Folder.system : System (StateM Folder) where
  read
    | .standardInput => fun folder => (.ok folder.input, folder)
    | .file name => fun folder =>
        ((folder.content? name).elim (.error ⟨"No such file or directory", 2⟩) .ok, folder)
  write
    | .standardOutput, text => fun folder =>
        (none, { folder with output := folder.output ++ text })
    | .file name, text => fun folder =>
        (none, { folder with
          content? := Function.update folder.content? name (some (String.ofList text).toUTF8) })

def Job.onStreams (operation : Operation) (spec : Spec) (separators : Separators) : Job :=
  ⟨operation, spec, separators, none, none⟩

/-- What a job writes to the standard output if the text is its standard input. -/
def Job.output (job : Job) (text : List Char) : List Char :=
  (job.plan.run Folder.system ⟨fun _ => none, (String.ofList text).toUTF8, []⟩).2.output

theorem Job.output_eq (operation : Operation) {spec : Spec} {mask : Mask}
    (compiled : spec.mask = .ok mask) (separators : Separators) (text : List Char) :
    (Job.onStreams operation spec separators).output text =
      operation.result mask spec separators text := by
  let job := Job.onStreams operation spec separators
  let fed : Folder := ⟨fun _ => none, (String.ofList text).toUTF8, []⟩
  have reached : job.plan.run Folder.system fed = (job.conclude mask text).run Folder.system fed :=
    Job.run_of_text compiled (decoded_toUTF8 text)
  change (job.plan.run Folder.system fed).2.output = _
  rw [reached]
  by_cases clean : job.Clean mask text
  · rw [Job.conclude_of_clean clean, show operation = .check from clean.1]
    exact ((reportText_eq_nil_iff _).mpr ((reported_eq_nil_iff _ _).mpr clean.2)).symm
  · rw [Job.conclude_of_unclean clean, Plan.run_deliver]
    rfl

end InputMask.CommandLine
