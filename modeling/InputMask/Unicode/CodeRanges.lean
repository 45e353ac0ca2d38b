/-
A set of character codes written as inclusive ranges. This is the form in which the tables of
character properties are kept; a table is consulted, never modified.
-/

namespace InputMask.Unicode

def inRanges (ranges : List (Nat × Nat)) (c : Char) : Bool :=
  ranges.any (fun range => decide (range.1 ≤ c.toNat ∧ c.toNat ≤ range.2))

end InputMask.Unicode
