/-
What a command line asks for. The mask may come from the environment when no option names it,
and an option whose value is one character takes exactly one.
-/
import InputMask.CommandLine.Options
import InputMask.Separators
import InputMask.Spec

namespace InputMask.CommandLine

inductive Operation where
  | apply
  | remove
  | check
deriving DecidableEq

/-- An operation on the lines of a text. Without a file name the standard streams are meant. -/
structure Job where
  operation : Operation
  spec : Spec
  separators : Separators
  input? : Option (List Char)
  output? : Option (List Char)
deriving DecidableEq

inductive Request where
  | version
  | showSpec (spec : Spec)
  | showMask (spec : Spec)
  | work (job : Job)
deriving DecidableEq

def maskVariable : String := "EDITMASK_MASK"

def Given.char? (given : Given) (option : ValueOption) (standard : Char) : Option Char :=
  match given.value? option with
  | none => some standard
  | some [c] => some c
  | some _ => none

namespace Request

def spec? (environmentMask? : Option (List Char)) (given : Given) : Option Spec := do
  let text ← (given.value? .mask).or environmentMask?
  let space ← given.char? .space Spec.standardSpace
  return Spec.ofText space text

def job? (environmentMask? : Option (List Char)) (operation : Operation) (given : Given) :
    Option Request := do
  let spec ← spec? environmentMask? given
  let standard : Separators := { }
  let date ← given.char? .dateSeparator standard.date
  let time ← given.char? .timeSeparator standard.time
  return .work ⟨operation, spec, ⟨date, time⟩, given.value? .input, given.value? .output⟩

def ofInvocation? (environmentMask? : Option (List Char)) : Invocation → Option Request
  | .version => some .version
  | .command .apply given => job? environmentMask? .apply given
  | .command .remove given => job? environmentMask? .remove given
  | .command .check given => job? environmentMask? .check given
  | .command .split given => (spec? environmentMask? given).map .showSpec
  | .command .compile given => (spec? environmentMask? given).map .showMask

def ofArguments? (environmentMask? : Option (List Char)) (arguments : List (List Char)) :
    Option Request :=
  (Invocation.read? false arguments).bind (ofInvocation? environmentMask?)

end Request

end InputMask.CommandLine
