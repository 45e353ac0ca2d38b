/-
What a run of a job leaves behind. A run writes at most once, after all that can fail before, and
only to the target of the job. So a mask that cannot be read, an input that is no text and a check
without findings change nothing, and every other run that may write leaves the whole of its result,
made from the input as it was, even if it is written over that input.

This is said of every system of which two things are known: reading gives the whole of a source or
is refused, and changes nothing; writing puts the text in place of one file, or behind what is on
the standard output, or is refused, and names lead where they led. What a refused write has done to
its own target is left open.
-/
import InputMask.Proofs.CommandLine.Runs

namespace InputMask.CommandLine

/-! ### What is known of a system -/

/-- What can be seen of the states of a system. A name may lead to a file that is still to be
created, and it may lead to none, as that of a folder or a device does. -/
structure View (σ File : Type) where
  file? : σ → List Char → Option File
  content? : σ → File → Option ByteArray
  input : σ → ByteArray
  output : σ → List Char

section Systems

variable {σ File : Type}

structure View.Unchanged (view : View σ File) (before after : σ) : Prop where
  names : ∀ name, view.file? after name = view.file? before name
  files : ∀ file, view.content? after file = view.content? before file
  output : view.output after = view.output before

theorem View.Unchanged.refl (view : View σ File) (state : σ) : view.Unchanged state state :=
  ⟨fun _name => rfl, fun _file => rfl, rfl⟩

/-- The bytes are the whole of the source, as far as a file is read or the standard input. -/
def View.Holds (view : View σ File) (state : σ) (bytes : ByteArray) : Source → Prop
  | .standardInput => view.input state = bytes
  | .file name => ∀ file, view.file? state name = some file →
      view.content? state file = some bytes

structure System.Faithful (system : System (StateM σ)) (view : View σ File) : Prop where
  read_unchanged : ∀ state source,
    view.Unchanged state ((system.read source).run state).2
  read_whole : ∀ state source bytes,
    ((system.read source).run state).1 = .ok bytes → view.Holds state bytes source
  write_names : ∀ state target text name,
    view.file? ((system.write target text).run state).2 name = view.file? state name
  write_elsewhere : ∀ state target text file,
    (∀ name, target = .file name → view.file? state name ≠ some file) →
      view.content? ((system.write target text).run state).2 file = view.content? state file
  write_file : ∀ state name text file, view.file? state name = some file →
    let written := (system.write (.file name) text).run state
    written.1 = none →
      view.content? written.2 file = some (String.ofList text).toUTF8 ∧
        view.output written.2 = view.output state
  write_output : ∀ state text,
    let written := (system.write .standardOutput text).run state
    written.1 = none → view.output written.2 = view.output state ++ text

/-! ### Runs of a job -/

private theorem decoded_eq_error_iff (outcome : Except SystemFault ByteArray) :
    (∃ cause, decoded outcome = .error cause) ↔
      (∃ fault, outcome = .error fault) ∨ ∃ bytes, outcome = .ok bytes ∧ ¬bytes.IsValidUTF8 := by
  cases outcome with
  | error fault => simp [decoded]
  | ok bytes =>
      by_cases valid : bytes.IsValidUTF8 <;> simp [decoded, String.fromUTF8?, valid]

private theorem Target.ofName_eq_file_iff (name? : Option (List Char)) (name : List Char) :
    Target.ofName name? = .file name ↔ name? = some name := by
  cases name? <;> simp [Target.ofName]

namespace Job

variable {system : System (StateM σ)} {state : σ} {job : Job} {mask : Mask} {text : List Char}

private theorem run_of_clean (compiled : job.spec.mask = .ok mask)
    (readable : decoded ((system.read (Source.ofName job.input?)).run state).1 = .ok text)
    (clean : job.Clean mask text) :
    (job.plan.run system state).2 = ((system.read (Source.ofName job.input?)).run state).2 := by
  rw [run_of_text compiled readable, conclude_of_clean clean]
  rfl

private theorem run_of_unclean (compiled : job.spec.mask = .ok mask)
    (readable : decoded ((system.read (Source.ofName job.input?)).run state).1 = .ok text)
    (unclean : ¬job.Clean mask text) :
    (job.plan.run system state).2 =
      ((system.write (Target.ofName job.output?)
          (job.operation.result mask job.spec job.separators text)).run
        ((system.read (Source.ofName job.input?)).run state).2).2 := by
  rw [run_of_text compiled readable, conclude_of_unclean unclean, Plan.run_deliver]

/-- A run does nothing, or it reads its source, or it reads its source and writes its target. -/
private theorem run_state (system : System (StateM σ)) (job : Job) (state : σ) :
    let read := (system.read (Source.ofName job.input?)).run state
    (job.plan.run system state).2 = state ∨ (job.plan.run system state).2 = read.2 ∨
      ∃ text, (job.plan.run system state).2 =
        ((system.write (Target.ofName job.output?) text).run read.2).2 := by
  intro read
  cases compiled : job.spec.mask with
  | error fault => exact Or.inl (run_of_fault compiled)
  | ok mask =>
      cases readable : decoded read.1 with
      | error cause => exact Or.inr (Or.inl (run_of_unreadable compiled readable))
      | ok text =>
          by_cases clean : job.Clean mask text
          · exact Or.inr (Or.inl (run_of_clean compiled readable clean))
          · exact Or.inr (Or.inr ⟨_, run_of_unclean compiled readable clean⟩)

theorem run_names {view : View σ File} (faithful : system.Faithful view) (name : List Char) :
    view.file? (job.plan.run system state).2 name = view.file? state name := by
  have unread := faithful.read_unchanged state (Source.ofName job.input?)
  rcases run_state system job state with nothing | onlyRead | ⟨text, written⟩
  · rw [nothing]
  · rw [onlyRead, unread.names]
  · rw [written, faithful.write_names, unread.names]

/-- Only a file that the job names for its output can differ. -/
theorem run_elsewhere {view : View σ File} (faithful : system.Faithful view) {file : File}
    (unnamed : ∀ name, job.output? = some name → view.file? state name ≠ some file) :
    view.content? (job.plan.run system state).2 file = view.content? state file := by
  have unread := faithful.read_unchanged state (Source.ofName job.input?)
  rcases run_state system job state with nothing | onlyRead | ⟨text, written⟩
  · rw [nothing]
  · rw [onlyRead, unread.files]
  · rw [written, ← unread.files]
    apply faithful.write_elsewhere
    intro name target
    rw [unread.names]
    exact unnamed name ((Target.ofName_eq_file_iff _ name).mp target)

end Job

/-- Every run with a mask and a text that is no clean check hands over its result, which is made
from the input as it was before, also if both names lead to one file. -/
theorem only_results_written (system : System (StateM σ)) (view : View σ File)
    (faithful : system.Faithful view) (job : Job) (before : σ) :
    let read := (system.read (Source.ofName job.input?)).run before
    let after := (job.plan.run system before).2
    ((∀ name, view.file? after name = view.file? before name) ∧
        ∀ file, (∀ name, job.output? = some name → view.file? before name ≠ some file) →
          view.content? after file = view.content? before file) ∧
      ((∃ fault, job.spec.mask = .error fault) → after = before) ∧
      (((∃ fault, read.1 = .error fault) ∨
          ∃ bytes, read.1 = .ok bytes ∧ ¬bytes.IsValidUTF8) → view.Unchanged before after) ∧
      ∀ (mask : Mask) (text : List Char), job.spec.mask = .ok mask →
        read.1 = .ok (String.ofList text).toUTF8 →
          view.Holds before (String.ofList text).toUTF8 (Source.ofName job.input?) ∧
            (job.Clean mask text → view.Unchanged before after) ∧
            (¬job.Clean mask text →
              let result := job.operation.result mask job.spec job.separators text
              ((system.write (Target.ofName job.output?) result).run read.2).1 = none →
                (job.output? = none →
                  view.output after = view.output before ++ result ∧
                    ∀ file, view.content? after file = view.content? before file) ∧
                  ∀ name file, job.output? = some name → view.file? before name = some file →
                    view.content? after file = some (String.ofList result).toUTF8 ∧
                      view.output after = view.output before) := by
  intro read after
  have unread : view.Unchanged before read.2 :=
    faithful.read_unchanged before (Source.ofName job.input?)
  refine ⟨⟨Job.run_names faithful, fun file => Job.run_elsewhere faithful⟩, ?_, ?_, ?_⟩
  · rintro ⟨fault, undenoted⟩
    exact Job.run_of_fault undenoted
  · intro unreadable
    obtain ⟨cause, undecoded⟩ := (decoded_eq_error_iff _).mpr unreadable
    cases compiled : job.spec.mask with
    | error fault =>
        rw [show after = before from Job.run_of_fault compiled]
        exact View.Unchanged.refl view before
    | ok mask =>
        rw [show after = read.2 from Job.run_of_unreadable compiled undecoded]
        exact unread
  · intro mask text compiled isText
    have readable : decoded read.1 = .ok text := by
      rw [isText]
      exact decoded_toUTF8 text
    refine ⟨faithful.read_whole before _ _ isText, ?_, ?_⟩
    · intro clean
      rw [show after = read.2 from Job.run_of_clean compiled readable clean]
      exact unread
    · intro unclean result taken
      have left : after = _ := Job.run_of_unclean compiled readable unclean
      constructor
      · intro unnamed
        constructor
        · rw [unnamed] at taken left
          rw [left, ← unread.output]
          exact faithful.write_output read.2 result taken
        · intro file
          apply Job.run_elsewhere faithful
          rw [unnamed]
          exact nofun
      · intro name file named leads
        rw [named] at taken left
        have there : view.file? read.2 name = some file := (unread.names name).trans leads
        rw [left, ← unread.output]
        exact faithful.write_file read.2 name result file there taken

/-! ### Runs in a folder -/

def Folder.view : View Folder (List Char) where
  file? _folder name := some name
  content? := Folder.content?
  input := Folder.input
  output := Folder.output

theorem Folder.faithful : Folder.system.Faithful Folder.view where
  read_unchanged folder source := by
    cases source <;> exact View.Unchanged.refl Folder.view folder
  read_whole folder source bytes read := by
    cases source with
    | standardInput => exact Except.ok.inj read
    | file name =>
        intro file leads
        cases leads
        change (folder.content? name).elim _ Except.ok = Except.ok bytes at read
        cases found : folder.content? name with
        | none =>
            rw [found] at read
            cases read
        | some held =>
            rw [found] at read
            cases read
            exact found
  write_names _folder target _text _name := by
    cases target <;> rfl
  write_elsewhere folder target text file unnamed := by
    cases target with
    | standardOutput => rfl
    | file name =>
        have different : file ≠ name := fun same => unnamed name rfl (congrArg some same.symm)
        exact Function.update_of_ne different _ folder.content?
  write_file folder name text file leads := by
    cases leads
    exact fun _taken => ⟨Function.update_self name _ folder.content?, rfl⟩
  write_output _folder _text _taken := rfl

end Systems

/-- The input is written over, and the other file is kept. -/
theorem only_results_written_over_input :
    let digit : Element := .typed ⟨.digit, true, .unchanged⟩
    let mask : Mask := ⟨[digit, .literal '-', digit], false⟩
    let job : Job := ⟨.apply, ⟨['0', '-', '0'], false, '_'⟩, {}, some ['f'], some ['f']⟩
    let stored : ByteArray := (String.ofList ['1', '2', '\n', '3']).toUTF8
    let before : Folder := ⟨fun _name => some stored, ByteArray.empty, []⟩
    let after := (job.plan.run Folder.system before).2
    job.spec.mask = .ok mask ∧ before.content? ['f'] = some stored ∧
      after.content? ['f'] =
        some (String.ofList ['1', '-', '2', '\n', '3', '-', ' ', '\n']).toUTF8 ∧
      after.content? ['g'] = some stored ∧ after.output = [] := by
  intro digit mask job stored before after
  have compiled : job.spec.mask = .ok mask := rfl
  obtain ⟨elsewhere, _undenoted, _unreadable, written⟩ :=
    only_results_written Folder.system Folder.view Folder.faithful job before
  have unclean : ¬job.Clean mask ['1', '2', '\n', '3'] := nofun
  have left := ((written mask _ compiled rfl).2.2 unclean rfl).2 ['f'] ['f'] rfl rfl
  refine ⟨compiled, rfl, left.1, elsewhere.2 ['g'] ?_, left.2⟩
  intro name named leads
  cases named
  exact absurd leads (by decide)

end InputMask.CommandLine
