/-
Reading a text at other positions. What is read depends on positions only in that a fault
reports one and that a set keeps the one of its bracket. So if every position is renamed, the
same is read and the fault is renamed with it.
-/
import InputMask.Proofs.Pattern.SetScan

namespace InputMask

variable (f : Nat → Nat)

def Fault.moved (fault : Fault) : Fault := { fault with position := f fault.position }

theorem mapError_ok {ε ε' α : Type} (rename : ε → ε') (read : α) :
    (Except.ok read).mapError rename = .ok read := rfl

namespace Pattern

def SetDraft.moved (draft : SetDraft) : SetDraft := { draft with openedAt := f draft.openedAt }

def SetProgress.moved : SetProgress → SetProgress
  | reading draft => reading (draft.moved f)
  | closed slot => closed slot

def Mode.moved : Mode → Mode
  | inSet draft => inSet (draft.moved f)
  | plain => plain
  | afterLower => afterLower
  | escaped => escaped

def Scanner.moved (scanner : Scanner) : Scanner := { scanner with mode := scanner.mode.moved f }

theorem SetDraft.readChar_moved (position : Nat) (draft : SetDraft) (c : Char) :
    (draft.moved f).readChar (f position) c =
      ((draft.readChar position c).map (SetProgress.moved f)).mapError (Fault.moved f) := by
  obtain ⟨openedAt, negated, optional, escaped, items⟩ := draft
  cases escaped with
  | true => rfl
  | false =>
      simp only [readChar, moved, Bool.false_eq_true, if_false]
      split
      · rfl
      · cases items <;> rfl
      · cases items <;> rfl
      · cases items <;> cases negated <;> rfl
      · cases items <;> cases negated <;> cases optional <;> rfl
      · rfl

theorem SetDraft.finish_moved (n position : Nat) (draft : SetDraft) (text : List Char) :
    (draft.moved (· + n)).finish (position + n) text =
      (draft.finish position text).mapError (Fault.moved (· + n)) := by
  induction text generalizing position draft with
  | nil => rfl
  | cons c rest ih =>
      have step := readChar_moved (· + n) position draft c
      simp only [finish, step]
      cases draft.readChar position c with
      | error fault => rfl
      | ok progress =>
          cases progress with
          | closed slot => rfl
          | reading further =>
              have later := ih (position + 1) further
              rw [Nat.add_right_comm] at later
              exact later

private theorem Scanner.readPlain_moved (position : Nat) (scanner : Scanner)
    (closingAngle : CaseShift)
    (c : Char) :
    (scanner.moved f).readPlain (f position) closingAngle c =
      (((scanner.readPlain position closingAngle c).1).moved f,
        (scanner.readPlain position closingAngle c).2) := by
  unfold readPlain
  split <;> rfl

theorem Scanner.readChar_moved (position : Nat) (scanner : Scanner) (c : Char) :
    (scanner.moved f).readChar (f position) c =
      ((scanner.readChar position c).map fun (next, element?) =>
        (next.moved f, element?)).mapError (Fault.moved f) := by
  obtain ⟨mode, shift, rightToLeft⟩ := scanner
  cases mode with
  | plain => exact congrArg Except.ok (readPlain_moved f position _ .upper c)
  | afterLower => exact congrArg Except.ok (readPlain_moved f position _ .unchanged c)
  | escaped => rfl
  | inSet draft =>
      simp only [readChar, moved, Mode.moved, SetDraft.readChar_moved]
      cases draft.readChar position c with
      | error fault => rfl
      | ok progress => cases progress <;> rfl

theorem Scanner.faultAtEnd?_moved (scanner : Scanner) :
    (scanner.moved f).faultAtEnd? = scanner.faultAtEnd?.map (Fault.moved f) := by
  obtain ⟨mode, shift, rightToLeft⟩ := scanner
  cases mode <;> rfl

end Pattern

end InputMask
