/-
An edit field: a specification with its mask, the separators, and the text last shown.

The mask is read when a specification is assigned. Changing the flag, the space placeholder or
the separators afterwards keeps the mask, and a specification that cannot be read leaves the
field as it was.
-/
import InputMask.Spec.Values

namespace InputMask

structure Field where
  spec : Spec
  mask : Mask
  separators : Separators
  text : List Char

structure Field.Settings where
  saveFormatted : Option Bool
  spacePlaceholder : Option Char
  dateSeparator : Option Char
  timeSeparator : Option Char

namespace Field

def blank : Field := ⟨Spec.ofPattern [], Mask.empty, { }, []⟩

example : blank.spec.mask = .ok blank.mask := rfl

def assign (field : Field) (spec : Spec) : Except Fault Field :=
  spec.mask.map (fun mask => { field with spec := spec, mask := mask })

def configure (field : Field) (settings : Settings) : Field :=
  { field with
    spec :=
      { field.spec with
        saveFormatted := settings.saveFormatted.getD field.spec.saveFormatted
        spacePlaceholder := settings.spacePlaceholder.getD field.spec.spacePlaceholder }
    separators :=
      { date := settings.dateSeparator.getD field.separators.date
        time := settings.timeSeparator.getD field.separators.time } }

def apply (field : Field) (value : List Char) : Field :=
  { field with
    text := field.mask.apply field.separators field.spec.saveFormatted
      field.spec.spacePlaceholder value }

def remove (field : Field) (value : List Char) : Field :=
  { field with
    text := field.mask.remove field.separators field.spec.saveFormatted value }

def violation? (field : Field) (value : List Char) : Option Nat :=
  field.mask.violation? field.separators field.spec.spacePlaceholder value

end Field

end InputMask
