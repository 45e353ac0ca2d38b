/-
Working through a text line by line, each line being one value of the mask. Applying and
removing give a line for each line; checking reports the lines that do not conform.
-/
import InputMask.Conformance
import InputMask.Filling
import InputMask.Spec
import InputMask.Text.Lines

namespace InputMask

/-- A line that does not conform and the first position at which it fails. Lines are counted
from one, positions from zero. -/
structure Finding where
  line : Nat
  position : Nat
deriving DecidableEq

namespace Finding

def message (finding : Finding) : String :=
  s!"line {finding.line}: slot {finding.position}"

def inLines (violation? : List Char → Option Nat) (number : Nat) :
    List (List Char) → List Finding
  | [] => []
  | line :: rest =>
      match violation? line with
      | some position => ⟨number, position⟩ :: inLines violation? (number + 1) rest
      | none => inLines violation? (number + 1) rest

def report (findings : List Finding) : List Char :=
  findings.flatMap (fun finding => finding.message.toList ++ ['\n'])

end Finding

structure Batch where
  mask : Mask
  spec : Spec
  separators : Separators

namespace Batch

def applyLine (batch : Batch) (line : List Char) : List Char :=
  batch.mask.apply batch.separators batch.spec.saveFormatted batch.spec.spacePlaceholder line

def removeLine (batch : Batch) (line : List Char) : List Char :=
  batch.mask.remove batch.separators batch.spec.saveFormatted line

def violation? (batch : Batch) (line : List Char) : Option Nat :=
  batch.mask.violation? batch.separators batch.spec.spacePlaceholder line

def apply (batch : Batch) (text : List Char) : List Char :=
  Text.mapLines batch.applyLine text

def remove (batch : Batch) (text : List Char) : List Char :=
  Text.mapLines batch.removeLine text

def findings (batch : Batch) (text : List Char) : List Finding :=
  Finding.inLines batch.violation? 1 (Text.lines text)

def check (batch : Batch) (text : List Char) : List Char :=
  Finding.report (batch.findings text)

end Batch

end InputMask
