/-
The ways in which a mask pattern can be wrong. All of them concern character sets; every other
text is a pattern.
-/

namespace InputMask

inductive FaultKind where
  /-- The pattern ends inside a character set. -/
  | unclosedSet
  /-- A character set closes before it lists a character. -/
  | emptySet
  /-- A dash follows a dash that has already begun a range. -/
  | doubledDash
deriving DecidableEq

/-- The position counts characters from the start of the pattern. It is that of the opening
bracket, or of the second dash. -/
structure Fault where
  kind : FaultKind
  position : Nat
deriving DecidableEq

def FaultKind.reason : FaultKind → String
  | unclosedSet => "character set is not closed"
  | emptySet => "empty character set"
  | doubledDash => "illegal set construction"

def Fault.message (fault : Fault) : String :=
  s!"Invalid mask at position {fault.position}: {fault.kind.reason}"

end InputMask
