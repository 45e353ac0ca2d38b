/-
Using a specification directly on values: its pattern is read first, so each of these has the
faults of the pattern and no others.
-/
import InputMask.Conformance
import InputMask.Filling
import InputMask.Pattern.Scanner
import InputMask.Spec

namespace InputMask.Spec

def mask (spec : Spec) : Except Fault Mask := Mask.ofPattern spec.pattern

def apply (spec : Spec) (separators : Separators) (value : List Char) :
    Except Fault (List Char) :=
  spec.mask.map (fun mask =>
    mask.apply separators spec.saveFormatted spec.spacePlaceholder value)

def remove (spec : Spec) (separators : Separators) (value : List Char) :
    Except Fault (List Char) :=
  spec.mask.map (fun mask => mask.remove separators spec.saveFormatted value)

def violation? (spec : Spec) (separators : Separators) (value : List Char) :
    Except Fault (Option Nat) :=
  spec.mask.map (fun mask => mask.violation? separators spec.spacePlaceholder value)

end InputMask.Spec
