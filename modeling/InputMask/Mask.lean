/-
A mask is a sequence of elements and the edge against which values are aligned. The order of
the elements is the order of the text in both directions.

The layout of a mask is what filling and stripping see of it: at each position the fixed
character, or nothing where data goes.
-/
import InputMask.Element

namespace InputMask

structure Mask where
  elements : List Element
  rightToLeft : Bool
deriving DecidableEq

abbrev Layout := List (Option Char)

namespace Mask

def empty : Mask := ⟨[], false⟩

def length (mask : Mask) : Nat := mask.elements.length

def slotCount (mask : Mask) : Nat := mask.elements.countP (fun element => !element.isFixed)

def layout (mask : Mask) (separators : Separators) : Layout :=
  mask.elements.map (Element.fixed? separators)

theorem layout_length (mask : Mask) (separators : Separators) :
    (mask.layout separators).length = mask.length :=
  List.length_map _

theorem layout_count_none (mask : Mask) (separators : Separators) :
    (mask.layout separators).count none = mask.slotCount := by
  unfold layout slotCount List.count
  rw [List.countP_map]
  refine List.countP_congr ?_
  intro element _member
  cases element <;> simp [Element.fixed?, Element.isFixed]

end Mask

end InputMask
