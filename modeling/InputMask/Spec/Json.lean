/-
The JSON form of a specification. It is written as an object. It is read from an object that
has all three fields, in any order and possibly among others, or from a list of exactly the
three values. The space placeholder is a string of one character.
-/
import InputMask.Json
import InputMask.Spec

namespace InputMask.Spec

def toJson (spec : Spec) : Json :=
  .object
    [("pattern", .string spec.pattern),
     ("save_formatted", .bool spec.saveFormatted),
     ("space_placeholder", .string [spec.spacePlaceholder])]

/-- A value of another type is refused, never converted. -/
def ofParts? : Json → Json → Json → Option Spec
  | .string pattern, .bool flag, .string [space] => some ⟨pattern, flag, space⟩
  | _, _, _ => none

def ofJson? : Json → Option Spec
  | .object fields =>
      match fields.lookup "pattern", fields.lookup "save_formatted",
        fields.lookup "space_placeholder" with
      | some pattern, some flag, some space => ofParts? pattern flag space
      | _, _, _ => none
  | .array [pattern, flag, space] => ofParts? pattern flag space
  | _ => none

theorem ofJson?_toJson (spec : Spec) : ofJson? spec.toJson = some spec := rfl

end InputMask.Spec
