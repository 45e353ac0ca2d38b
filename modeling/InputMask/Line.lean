/-
The slots of one line of output while it is being filled. A slot is either empty or shows a
character.

A placement is a text together with the run of slots it may occupy. The text is packed against
one edge of the run, and what does not fit is dropped at the other edge. Filling changes no slot
outside the run and never the number of slots.
-/

namespace InputMask

abbrev Line := List (Option Char)

namespace Line

def overlay : List Char → Line → Line
  | [], slots => slots
  | _ :: _, [] => []
  | c :: text, _ :: slots => some c :: overlay text slots

theorem overlay_length (text : List Char) (slots : Line) :
    (overlay text slots).length = slots.length := by
  induction text generalizing slots with
  | nil => rfl
  | cons c rest ih =>
      cases slots with
      | nil => rfl
      | cons slot later => exact congrArg (· + 1) (ih later)

def pack (rightToLeft : Bool) (text : List Char) (slots : Line) : Line :=
  if rightToLeft then (overlay text.reverse slots.reverse).reverse else overlay text slots

theorem pack_length (rightToLeft : Bool) (text : List Char) (slots : Line) :
    (pack rightToLeft text slots).length = slots.length := by
  cases rightToLeft with
  | false => exact overlay_length text slots
  | true =>
      rw [pack, if_pos rfl, List.length_reverse, overlay_length, List.length_reverse]

def text (line : Line) : List Char := line.filterMap id

end Line

structure Placement where
  start : Nat
  width : Nat
  text : List Char
deriving DecidableEq

namespace Placement

def stop (placement : Placement) : Nat := placement.start + placement.width

def fill (rightToLeft : Bool) (line : Line) (placement : Placement) : Line :=
  line.take placement.start ++
    (Line.pack rightToLeft placement.text
        ((line.drop placement.start).take placement.width) ++
      line.drop placement.stop)

theorem fill_length (rightToLeft : Bool) (line : Line) (placement : Placement) :
    (placement.fill rightToLeft line).length = line.length := by
  simp only [fill, stop, List.length_append, Line.pack_length, List.length_take,
    List.length_drop]
  omega

end Placement

def Line.fill (rightToLeft : Bool) (line : Line) (placements : List Placement) : Line :=
  placements.foldl (Placement.fill rightToLeft) line

theorem Line.fill_length (rightToLeft : Bool) (line : Line) (placements : List Placement) :
    (line.fill rightToLeft placements).length = line.length := by
  induction placements generalizing line with
  | nil => rfl
  | cons placement rest ih =>
      exact (ih (placement.fill rightToLeft line)).trans
        (placement.fill_length rightToLeft line)

end InputMask
