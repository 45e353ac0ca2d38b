/-
The elements of a mask. Each element stands for exactly one position of a formatted value and
is either fixed, showing one known character, or a data slot, holding a character of the value.

Every combination of the fields below is a value of the type; which of them a pattern can
express is a question about the pattern language and is not answered here.
-/
import InputMask.CharSet
import InputMask.Separators
import InputMask.Unicode.Alphabetic
import InputMask.Unicode.Numeric

namespace InputMask

/-- The letter case that a slot asks for. It describes a conversion and restricts nothing. -/
inductive CaseShift where
  | unchanged
  | upper
  | lower
deriving DecidableEq

inductive SlotKind where
  | letter
  | alphanumeric
  | any
  | hexDigit
  | binaryDigit
  | digit
  | signedDigit
deriving DecidableEq

def SlotKind.takesCase : SlotKind → Bool
  | .letter | .alphanumeric | .any | .hexDigit => true
  | .binaryDigit | .digit | .signedDigit => false

structure TypedSlot where
  kind : SlotKind
  required : Bool
  shift : CaseShift
deriving DecidableEq

namespace TypedSlot

def isHexDigit (c : Char) : Bool :=
  c.isDigit || ('a' ≤ c && c ≤ 'f') || ('A' ≤ c && c ≤ 'F')

/-- Letters and numbers are those of every script; the digit kinds are ASCII only. A slot for
any character refuses the space exactly when it must be filled. -/
def accepts (slot : TypedSlot) (c : Char) : Bool :=
  match slot.kind with
  | .letter => Unicode.isAlphabetic c
  | .alphanumeric => Unicode.isAlphabetic c || Unicode.isNumeric c
  | .any => !slot.required || c != ' '
  | .hexDigit => isHexDigit c
  | .binaryDigit => c == '0' || c == '1'
  | .digit => c.isDigit
  | .signedDigit => c.isDigit || c == '+' || c == '-'

end TypedSlot

structure SetSlot where
  members : CharSet
  negated : Bool
  optional : Bool
deriving DecidableEq

def SetSlot.accepts (slot : SetSlot) (c : Char) : Bool :=
  decide (c ∈ slot.members) != slot.negated

inductive Element where
  | literal (c : Char)
  | dateSeparator
  | timeSeparator
  | typed (slot : TypedSlot)
  | charSet (slot : SetSlot)
deriving DecidableEq

namespace Element

def fixed? (separators : Separators) : Element → Option Char
  | literal c => some c
  | dateSeparator => some separators.date
  | timeSeparator => some separators.time
  | typed _ => none
  | charSet _ => none

def isFixed : Element → Bool
  | literal _ | dateSeparator | timeSeparator => true
  | typed _ | charSet _ => false

theorem fixed?_isSome (separators : Separators) (element : Element) :
    (element.fixed? separators).isSome = element.isFixed := by
  cases element <;> rfl

theorem fixed?_eq_none_iff (separators : Separators) (element : Element) :
    element.fixed? separators = none ↔ element.isFixed = false := by
  rw [← fixed?_isSome separators, Option.isSome_eq_false_iff, Option.isNone_iff_eq_none]

def isRequired : Element → Bool
  | typed slot => slot.required
  | charSet slot => !slot.optional
  | literal _ | dateSeparator | timeSeparator => false

def accepts : Element → Char → Bool
  | typed slot, c => slot.accepts c
  | charSet slot, c => slot.accepts c
  | literal _, _ | dateSeparator, _ | timeSeparator, _ => false

end Element

end InputMask
