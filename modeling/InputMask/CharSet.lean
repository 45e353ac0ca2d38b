/-
Finite sets of characters. A set is the ascending list of its members, so two sets with the
same members are equal and a set is printed in code point order without sorting.

The only way to grow a set is to insert an inclusive range; a single character is the range
from itself to itself. The surrogate codes lie inside many ranges and name no character, so a
range passes over them.
-/

namespace InputMask

def charWithCode? (code : Nat) : Option Char :=
  if code.isValidChar then some (Char.ofNat code) else none

private theorem char_lt_iff (c d : Char) : c < d ↔ c.toNat < d.toNat := UInt32.lt_iff_toNat_lt

private theorem char_le_iff (c d : Char) : c ≤ d ↔ c.toNat ≤ d.toNat := UInt32.le_iff_toNat_le

private theorem charWithCode?_eq_some_iff (code : Nat) (c : Char) :
    charWithCode? code = some c ↔ code = c.toNat := by
  unfold charWithCode?
  constructor
  · intro found
    by_cases valid : code.isValidChar
    · rw [if_pos valid, Option.some.injEq] at found
      subst c
      rw [Char.ofNat, dif_pos valid]
      rfl
    · rw [if_neg valid] at found
      exact nomatch found
  · intro same
    subst code
    have valid : c.toNat.isValidChar := c.valid
    rw [if_pos valid, Char.ofNat_toNat]

def charRange (lo hi : Char) : List Char :=
  (List.range' lo.toNat (hi.toNat + 1 - lo.toNat)).filterMap charWithCode?

theorem mem_charRange (lo hi c : Char) : c ∈ charRange lo hi ↔ lo ≤ c ∧ c ≤ hi := by
  rw [char_le_iff, char_le_iff, charRange, List.mem_filterMap]
  constructor
  · rintro ⟨code, inRange, found⟩
    have same := (charWithCode?_eq_some_iff code c).mp found
    subst code
    have bounds := List.mem_range'_1.mp inRange
    omega
  · intro bounds
    refine ⟨c.toNat, ?_, (charWithCode?_eq_some_iff _ c).mpr rfl⟩
    exact List.mem_range'_1.mpr (by omega)

theorem charRange_ascending (lo hi : Char) : (charRange lo hi).Pairwise (· < ·) := by
  unfold charRange
  refine List.Pairwise.filterMap charWithCode? ?_ List.pairwise_lt_range'
  intro left right before c cFound d dFound
  have leftCode := (charWithCode?_eq_some_iff left c).mp cFound
  have rightCode := (charWithCode?_eq_some_iff right d).mp dFound
  subst left right
  exact (char_lt_iff c d).mpr before

structure CharSet where
  members : List Char
  ascending : members.Pairwise (· < ·)
deriving DecidableEq

namespace CharSet

instance : Membership Char CharSet where
  mem set c := c ∈ set.members

instance (c : Char) (set : CharSet) : Decidable (c ∈ set) :=
  inferInstanceAs (Decidable (c ∈ set.members))

theorem mem_def (c : Char) (set : CharSet) : c ∈ set ↔ c ∈ set.members := Iff.rfl

theorem eq_of_mem_iff {left right : CharSet} (same : ∀ c, c ∈ left ↔ c ∈ right) :
    left = right := by
  have different : ∀ {c d : Char}, c < d → c ≠ d := by
    intro c d before equal
    subst d
    exact Char.lt_irrefl c before
  have permuted : left.members.Perm right.members :=
    (List.perm_ext_iff_of_nodup (left.ascending.imp different)
      (right.ascending.imp different)).mpr same
  have members : left.members = right.members := by
    refine permuted.eq_of_pairwise ?_ left.ascending right.ascending
    intro c d _inLeft _inRight before after
    exact (Char.lt_irrefl c (Char.lt_trans before after)).elim
  cases left
  cases right
  cases members
  rfl

def empty : CharSet := ⟨[], List.Pairwise.nil⟩

/-- Put the characters from `lo` to `hi` into the set. A descending range adds nothing. -/
def insertRange (set : CharSet) (lo hi : Char) : CharSet :=
  if ordered : lo ≤ hi then
    { members :=
        set.members.filter (· < lo) ++ (charRange lo hi ++ set.members.filter (hi < ·))
      ascending := by
        have below : ∀ c ∈ set.members.filter (· < lo), c.toNat < lo.toNat :=
          fun c member =>
            (char_lt_iff c lo).mp (of_decide_eq_true (List.mem_filter.mp member).2)
        have above : ∀ c ∈ set.members.filter (hi < ·), hi.toNat < c.toNat :=
          fun c member =>
            (char_lt_iff hi c).mp (of_decide_eq_true (List.mem_filter.mp member).2)
        have within : ∀ c ∈ charRange lo hi, lo.toNat ≤ c.toNat ∧ c.toNat ≤ hi.toNat := by
          intro c member
          have bounds := (mem_charRange lo hi c).mp member
          exact ⟨(char_le_iff lo c).mp bounds.1, (char_le_iff c hi).mp bounds.2⟩
        have notEmpty := (char_le_iff lo hi).mp ordered
        refine List.pairwise_append.mpr ⟨set.ascending.filter _,
          List.pairwise_append.mpr
            ⟨charRange_ascending lo hi, set.ascending.filter _, ?_⟩, ?_⟩
        · intro c inRange d later
          have cBounds := within c inRange
          have dBound := above d later
          exact (char_lt_iff c d).mpr (by omega)
        · intro c earlier d later
          have cBound := below c earlier
          rcases List.mem_append.mp later with inRange | aboveRange
          · have dBounds := within d inRange
            exact (char_lt_iff c d).mpr (by omega)
          · have dBound := above d aboveRange
            exact (char_lt_iff c d).mpr (by omega) }
  else set

theorem mem_insertRange (set : CharSet) (lo hi c : Char) :
    c ∈ set.insertRange lo hi ↔ c ∈ set ∨ (lo ≤ c ∧ c ≤ hi) := by
  unfold insertRange
  by_cases ordered : lo ≤ hi
  · rw [dif_pos ordered, mem_def, mem_def, List.mem_append, List.mem_append,
      List.mem_filter, List.mem_filter, mem_charRange, decide_eq_true_iff,
      decide_eq_true_iff]
    rw [char_le_iff, char_le_iff, char_lt_iff, char_lt_iff]
    constructor
    · rintro (below | inRange | above)
      · exact Or.inl below.1
      · exact Or.inr inRange
      · exact Or.inl above.1
    · rintro (old | inRange)
      · by_cases below : c.toNat < lo.toNat
        · exact Or.inl ⟨old, below⟩
        · by_cases above : hi.toNat < c.toNat
          · exact Or.inr (Or.inr ⟨old, above⟩)
          · exact Or.inr (Or.inl (by omega))
      · exact Or.inr (Or.inl inRange)
  · rw [dif_neg ordered]
    rw [char_le_iff] at ordered
    rw [char_le_iff, char_le_iff]
    constructor
    · exact Or.inl
    · rintro (old | inRange)
      · exact old
      · omega

def insert (set : CharSet) (c : Char) : CharSet := set.insertRange c c

theorem mem_insert (set : CharSet) (d c : Char) :
    c ∈ set.insert d ↔ c ∈ set ∨ c = d := by
  rw [insert, mem_insertRange, char_le_iff, char_le_iff]
  constructor
  · rintro (old | bounds)
    · exact Or.inl old
    · exact Or.inr (Char.toNat_inj.mp (by omega))
  · rintro (old | same)
    · exact Or.inl old
    · subst d
      exact Or.inr ⟨Nat.le_refl _, Nat.le_refl _⟩

end CharSet

end InputMask
