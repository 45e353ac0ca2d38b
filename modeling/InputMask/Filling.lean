/-
Applying a mask to a value and removing it again. Both decide in the same way which characters
of the value go into which slots and differ in what the slots show before: applying starts from
the fixed characters and the space placeholder, removing from empty slots, which it then drops.

A raw value gives one character to each data slot. A formatted value is cut at the fixed
characters of the mask, and each piece goes to the data slots in front of the one that ends it.
No value makes either of them fail.
-/
import InputMask.Line
import InputMask.Mask
import InputMask.Text.Cut

namespace InputMask

def dataPositions (start : Nat) : List Element → List Nat
  | [] => []
  | element :: elements =>
      if element.isFixed then dataPositions (start + 1) elements
      else start :: dataPositions (start + 1) elements

/-- A raw value gives one character to each position and is continued by spaces. From right to
left the last character goes to the last position, and the spaces to the first positions. -/
def rawPlacements (rightToLeft : Bool) (positions : List Nat) (value : List Char) :
    List Placement :=
  let spaces := List.replicate positions.length ' '
  let single (position : Nat) (c : Char) : Placement := ⟨position, 1, [c]⟩
  if rightToLeft then positions.reverse.zipWith single (value.reverse ++ spaces)
  else positions.zipWith single (value ++ spaces)

namespace Layout

/-- Cut the value at each fixed character in turn. The run in front of the layout has the given
start and width. A fixed character that the value lacks ends the cutting: the whole of the value
goes in front of it. -/
def segments (start width : Nat) : Layout → List Char → List Placement
  | [], value => [⟨start, width, value⟩]
  | none :: layout, value => segments start (width + 1) layout value
  | some c :: layout, value =>
      match Text.cutAt? c value with
      | none => [⟨start, width, value⟩]
      | some (piece, later) =>
          ⟨start, width, piece⟩ :: segments (start + width + 1) 0 layout later

def admits : Layout → List Char → Bool
  | some c :: _, value => value.head? == some c
  | none :: _, _ | [], _ => true

def formattedPlacements (layout : Layout) (value : List Char) : List Placement :=
  if admits layout value then segments 0 0 layout value else []

def template (layout : Layout) (space : Char) : Line :=
  layout.map (fun fixed? => some (fixed?.getD space))

def blank (layout : Layout) : Line := List.replicate layout.length none

end Layout

namespace Mask

def placements (mask : Mask) (separators : Separators) (formatted : Bool)
    (value : List Char) : List Placement :=
  if formatted then Layout.formattedPlacements (mask.layout separators) value
  else rawPlacements mask.rightToLeft (dataPositions 0 mask.elements) value

def fill (mask : Mask) (separators : Separators) (formatted : Bool) (seed : Line)
    (value : List Char) : Line :=
  seed.fill mask.rightToLeft (mask.placements separators formatted value)

def apply (mask : Mask) (separators : Separators) (formatted : Bool) (space : Char)
    (value : List Char) : List Char :=
  (mask.fill separators formatted ((mask.layout separators).template space) value).text

def remove (mask : Mask) (separators : Separators) (formatted : Bool)
    (value : List Char) : List Char :=
  (mask.fill separators formatted (mask.layout separators).blank value).text

end Mask

end InputMask
