/-
The JSON view of a mask. Each element says what kind it is; the members of a character set are
listed in code point order.
-/
import InputMask.Json
import InputMask.Mask

namespace InputMask

def CaseShift.name : CaseShift → String
  | unchanged => "None"
  | upper => "Upper"
  | lower => "Lower"

def SlotKind.name : SlotKind → String
  | letter => "Letter"
  | alphanumeric => "AlphaNumeric"
  | any => "Any"
  | hexDigit => "Hex"
  | binaryDigit => "Binary"
  | digit => "Digit"
  | signedDigit => "SignedDigit"

def TypedSlot.toJson (slot : TypedSlot) : Json :=
  .object
    [("class", .string slot.kind.name.toList),
     ("required", .bool slot.required),
     ("case", .string slot.shift.name.toList)]

def SetSlot.toJson (slot : SetSlot) : Json :=
  .object
    [("members", .array (slot.members.members.map (fun c => .string [c]))),
     ("negated", .bool slot.negated),
     ("optional", .bool slot.optional)]

def Element.kindJson : Element → Json
  | literal c => .object [("Literal", .string [c])]
  | dateSeparator => .string "DateSeparator".toList
  | timeSeparator => .string "HourSeparator".toList
  | typed slot => .object [("Placeholder", slot.toJson)]
  | charSet slot => .object [("CharSet", slot.toJson)]

def Element.toJson (element : Element) : Json := .object [("kind", element.kindJson)]

def Mask.toJson (mask : Mask) : Json :=
  .object
    [("elements", .array (mask.elements.map Element.toJson)),
     ("right_to_left", .bool mask.rightToLeft)]

end InputMask
