/-
Whether a formatted value is complete and well typed. Filling a mask refuses nothing; this is
the separate question of what an edit field would accept.
-/
import InputMask.Mask

namespace InputMask

namespace Element

/-- A space is always blank. The space placeholder is blank only where it is not data. -/
def isBlank (space : Char) (element : Element) (c : Char) : Bool :=
  c == ' ' || (c == space && !element.accepts c)

def holds (separators : Separators) (space : Char) (element : Element) (c : Char) : Bool :=
  match element.fixed? separators with
  | some fixed => c == fixed
  | none => if element.isBlank space c then !element.isRequired else element.accepts c

end Element

/-- The first position at which the value fails the elements. A value that ends too soon fails
where its next character is missing, one that goes on fails where the elements end. -/
def firstViolation? (separators : Separators) (space : Char) :
    List Element → List Char → Option Nat
  | [], [] => none
  | [], _ :: _ => some 0
  | _ :: _, [] => some 0
  | element :: elements, c :: value =>
      if element.holds separators space c then
        (firstViolation? separators space elements value).map (· + 1)
      else some 0

def Mask.violation? (mask : Mask) (separators : Separators) (space : Char)
    (value : List Char) : Option Nat :=
  firstViolation? separators space mask.elements value

end InputMask
