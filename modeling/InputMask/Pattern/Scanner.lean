/-
The pattern language. A pattern is read from left to right, one character at a time, and each
character yields at most one element.

What a character means depends on the text before it only through the scanner, so reading a
text in two parts gives what reading it whole gives. The main statement about the reader,
`scan_append`, says just that.
-/
import InputMask.Mask
import InputMask.Pattern.SetDraft

namespace InputMask.Pattern

inductive Mode where
  | plain
  /-- The last character opened a lower-case region. -/
  | afterLower
  /-- The last character was a backslash, so the next one is a literal. -/
  | escaped
  | inSet (draft : SetDraft)
deriving DecidableEq

structure Scanner where
  mode : Mode
  /-- The case region for the slots to come. -/
  shift : CaseShift
  rightToLeft : Bool
deriving DecidableEq

def slotSign? : Char → Option (SlotKind × Bool)
  | 'l' => some (.letter, false)
  | 'L' => some (.letter, true)
  | 'a' => some (.alphanumeric, false)
  | 'A' => some (.alphanumeric, true)
  | 'c' => some (.any, false)
  | 'C' => some (.any, true)
  | 'h' => some (.hexDigit, false)
  | 'H' => some (.hexDigit, true)
  | 'b' => some (.binaryDigit, false)
  | 'B' => some (.binaryDigit, true)
  | '9' => some (.digit, false)
  | '0' => some (.digit, true)
  | '#' => some (.signedDigit, false)
  | _ => none

def elementOf (shift : CaseShift) (c : Char) : Element :=
  match c with
  | '/' => .dateSeparator
  | ':' => .timeSeparator
  | c =>
      match slotSign? c with
      | none => .literal c
      | some (kind, required) =>
          .typed ⟨kind, required, if kind.takesCase then shift else .unchanged⟩

namespace Scanner

def start : Scanner := ⟨.plain, .unchanged, false⟩

/-- Read a character outside every set. The region that a closing angle opens here is given,
because it depends on the character before. -/
def readPlain (position : Nat) (scanner : Scanner) (closingAngle : CaseShift) (c : Char) :
    Scanner × Option Element :=
  match c with
  | '\\' => ({ scanner with mode := .escaped }, none)
  | '!' => ({ scanner with mode := .plain, rightToLeft := true }, none)
  | '<' => ({ scanner with mode := .afterLower, shift := .lower }, none)
  | '>' => ({ scanner with mode := .plain, shift := closingAngle }, none)
  | '[' => ({ scanner with mode := .inSet (SetDraft.opened position) }, none)
  | c => ({ scanner with mode := .plain }, some (elementOf scanner.shift c))

def readChar (position : Nat) (scanner : Scanner) (c : Char) :
    Except Fault (Scanner × Option Element) :=
  match scanner.mode with
  | .plain => .ok (scanner.readPlain position .upper c)
  | .afterLower => .ok (scanner.readPlain position .unchanged c)
  | .escaped => .ok ({ scanner with mode := .plain }, some (.literal c))
  | .inSet draft =>
      match draft.readChar position c with
      | .error fault => .error fault
      | .ok (.reading further) => .ok ({ scanner with mode := .inSet further }, none)
      | .ok (.closed slot) => .ok ({ scanner with mode := .plain }, some (.charSet slot))

def scan (position : Nat) (scanner : Scanner) :
    List Char → Except Fault (List Element × Scanner)
  | [] => .ok ([], scanner)
  | c :: rest =>
      match scanner.readChar position c with
      | .error fault => .error fault
      | .ok (next, element?) =>
          match scan (position + 1) next rest with
          | .error fault => .error fault
          | .ok (elements, last) => .ok (element?.toList ++ elements, last)

theorem scan_append (position : Nat) (scanner : Scanner) (left right : List Char) :
    scan position scanner (left ++ right) =
      (match scan position scanner left with
      | .error fault => .error fault
      | .ok (elements, middle) =>
          match scan (position + left.length) middle right with
          | .error fault => .error fault
          | .ok (later, last) => .ok (elements ++ later, last)) := by
  induction left generalizing position scanner with
  | nil =>
      simp only [List.nil_append, scan, List.length_nil, Nat.add_zero]
      cases scan position scanner right <;> rfl
  | cons c rest ih =>
      simp only [List.cons_append, scan, List.length_cons]
      cases scanner.readChar position c with
      | error fault => rfl
      | ok outcome =>
          obtain ⟨next, element?⟩ := outcome
          simp only [ih]
          cases scan (position + 1) next rest with
          | error fault => rfl
          | ok outcome =>
              obtain ⟨elements, middle⟩ := outcome
              simp only [show position + (rest.length + 1) = position + 1 + rest.length by omega]
              cases scan (position + 1 + rest.length) middle right with
              | error fault => rfl
              | ok outcome => simp only [List.append_assoc]

/-- The fault of a pattern that ends here. A backslash at the very end is ignored. -/
def faultAtEnd? (scanner : Scanner) : Option Fault :=
  match scanner.mode with
  | .inSet draft => some ⟨.unclosedSet, draft.openedAt⟩
  | .plain | .afterLower | .escaped => none

end Scanner

end InputMask.Pattern

namespace InputMask

def Mask.ofPattern (pattern : List Char) : Except Fault Mask :=
  match Pattern.Scanner.scan 0 Pattern.Scanner.start pattern with
  | .error fault => .error fault
  | .ok (elements, scanner) =>
      match scanner.faultAtEnd? with
      | some fault => .error fault
      | none => .ok ⟨elements, scanner.rightToLeft⟩

end InputMask
