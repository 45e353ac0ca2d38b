/-
Mask specifications. A specification is a pattern, a flag saying whether values carry the fixed
characters of the mask, and the character shown in slots that hold no data. It is written as one
text with semicolons between the parts.

Every text is read as some specification. Only in the pattern can a semicolon be escaped, and
the backslash that does it stays in the pattern. Rendering escapes nothing.
-/

namespace InputMask

structure Spec where
  pattern : List Char
  saveFormatted : Bool
  spacePlaceholder : Char
deriving DecidableEq

namespace Spec

def standardSpace : Char := '_'

def ofPattern (pattern : List Char) : Spec := ⟨pattern, true, standardSpace⟩

/-- The text before the first semicolon that is not escaped, and the text after it if there is
one. The flag says whether the first character is escaped. -/
def cutPattern (escaped : Bool) : List Char → List Char × Option (List Char)
  | [] => ([], none)
  | c :: rest =>
      if c = ';' ∧ escaped = false then ([], some rest)
      else
        let (pattern, later?) := cutPattern (c == '\\' && !escaped) rest
        (c :: pattern, later?)

theorem cutPattern_none (escaped : Bool) (text pattern : List Char)
    (cut : cutPattern escaped text = (pattern, none)) : text = pattern := by
  induction text generalizing escaped pattern with
  | nil => exact (Prod.mk.inj cut).1
  | cons c rest ih =>
      unfold cutPattern at cut
      by_cases ends : c = ';' ∧ escaped = false
      · rw [if_pos ends] at cut
        exact nomatch (Prod.mk.inj cut).2
      · rw [if_neg ends] at cut
        have parts := Prod.mk.inj cut
        rw [← parts.1]
        exact congrArg (c :: ·) (ih _ _ (Prod.ext rfl parts.2))

theorem cutPattern_some (escaped : Bool) (text pattern later : List Char)
    (cut : cutPattern escaped text = (pattern, some later)) :
    text = pattern ++ ';' :: later := by
  induction text generalizing escaped pattern with
  | nil => exact nomatch (Prod.mk.inj cut).2
  | cons c rest ih =>
      unfold cutPattern at cut
      by_cases ends : c = ';' ∧ escaped = false
      · rw [if_pos ends] at cut
        have parts := Prod.mk.inj cut
        rw [← parts.1, ← Option.some.inj parts.2, ends.1]
        rfl
      · rw [if_neg ends] at cut
        have parts := Prod.mk.inj cut
        rw [← parts.1]
        exact congrArg (c :: ·) (ih _ _ (Prod.ext rfl parts.2))

/-- Every character up to the next semicolon sets the flag anew, so the last one decides. Only
a zero turns it off. -/
def readFlag (flag : Bool) : List Char → Bool × Option (List Char)
  | [] => (flag, none)
  | c :: rest => if c = ';' then (flag, some rest) else readFlag (c != '0') rest

def readSpace (space : Char) : List Char → Char
  | [] => space
  | c :: rest => if c = ';' then space else readSpace c rest

/-- Read a text. A part that is absent or empty leaves the flag on and the space as given. -/
def ofText (defaultSpace : Char) (text : List Char) : Spec :=
  match cutPattern false text with
  | (pattern, none) => ⟨pattern, true, defaultSpace⟩
  | (pattern, some later) =>
      match readFlag true later with
      | (flag, none) => ⟨pattern, flag, defaultSpace⟩
      | (flag, some last) => ⟨pattern, flag, readSpace defaultSpace last⟩

def flagSign (flag : Bool) : Char := if flag then '1' else '0'

def render (spec : Spec) : List Char :=
  spec.pattern ++ [';', flagSign spec.saveFormatted, ';', spec.spacePlaceholder]

end Spec

end InputMask
