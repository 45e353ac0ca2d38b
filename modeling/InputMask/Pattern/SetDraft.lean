/-
Reading a bracketed character set, one character at a time. The draft is all that has been
understood so far; it needs no view of the text ahead.

A dash after an item is kept open, because the next character decides about it: a closing
bracket makes it a member, a second dash is a fault, and anything else ends a range. A mark
counts only in front of the first item.
-/
import InputMask.Element
import InputMask.Fault

namespace InputMask.Pattern

/-- The items listed so far, with the last one kept because a range may start from it. -/
inductive SetItems where
  | blank
  | listed (members : CharSet) (last : Char)
  /-- A dash has been read after the last item. -/
  | dashed (members : CharSet) (last : Char)
deriving DecidableEq

namespace SetItems

def isBlank : SetItems → Bool
  | blank => true
  | listed _ _ | dashed _ _ => false

def add : SetItems → Char → SetItems
  | blank, c => listed (CharSet.empty.insert c) c
  | listed members _, c => listed (members.insert c) c
  | dashed members last, c => listed (members.insertRange last c) c

end SetItems

structure SetDraft where
  openedAt : Nat
  negated : Bool
  optional : Bool
  /-- A backslash has been read and the next character is an item whatever it is. -/
  escaped : Bool
  items : SetItems
deriving DecidableEq

inductive SetProgress where
  | reading (draft : SetDraft)
  | closed (slot : SetSlot)
deriving DecidableEq

namespace SetDraft

def opened (position : Nat) : SetDraft := ⟨position, false, false, false, .blank⟩

def add (draft : SetDraft) (c : Char) : SetDraft :=
  { draft with escaped := false, items := draft.items.add c }

/-- A negated set is never optional. -/
def slot (draft : SetDraft) (members : CharSet) : SetSlot :=
  { members := members
    negated := draft.negated
    optional := draft.optional && !draft.negated }

def close (draft : SetDraft) : Except Fault SetProgress :=
  match draft.items with
  | .blank => .error ⟨.emptySet, draft.openedAt⟩
  | .listed members _ => .ok (.closed (draft.slot members))
  | .dashed members _ => .ok (.closed (draft.slot (members.insert '-')))

def readDash (position : Nat) (draft : SetDraft) : Except Fault SetProgress :=
  match draft.items with
  | .blank => .ok (.reading (draft.add '-'))
  | .listed members last => .ok (.reading { draft with items := .dashed members last })
  | .dashed _ _ => .error ⟨.doubledDash, position⟩

def readChar (position : Nat) (draft : SetDraft) (c : Char) : Except Fault SetProgress :=
  if draft.escaped then .ok (.reading (draft.add c))
  else
    match c with
    | '\\' => .ok (.reading { draft with escaped := true })
    | ']' => draft.close
    | '-' => draft.readDash position
    | '!' =>
        if draft.items.isBlank && !draft.negated then
          .ok (.reading { draft with negated := true })
        else .ok (.reading (draft.add '!'))
    | '|' =>
        if draft.items.isBlank && !draft.negated && !draft.optional then
          .ok (.reading { draft with optional := true })
        else .ok (.reading (draft.add '|'))
    | c => .ok (.reading (draft.add c))

end SetDraft

end InputMask.Pattern
