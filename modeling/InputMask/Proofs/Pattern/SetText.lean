/-
The text of a character set, read in two passes. The first pass cuts the text into tokens and
finds the closing bracket. The second one looks at the items of the finished list: which dashes
are range dashes depends on their neighbours and on the bracket, and the ranges and members
follow from that.

Nothing here is read one character at a time. That the reader of patterns arrives at the same
sets and the same faults is shown apart.
-/
import InputMask.CharSet

namespace InputMask.Pattern

/-- A character of a set text. The position is that of its backslash if it has one. -/
structure SetToken where
  char : Char
  escaped : Bool
  position : Nat
deriving DecidableEq

def SetToken.sign? (token : SetToken) : Option Char :=
  if token.escaped then none else some token.char

def SetToken.IsDash (token : SetToken) : Prop := token.sign? = some '-'

instance (token : SetToken) : Decidable token.IsDash :=
  inferInstanceAs (Decidable (token.sign? = some '-'))

theorem SetToken.char_of_isDash {token : SetToken} (isDash : token.IsDash) :
    token.char = '-' := by
  unfold SetToken.IsDash SetToken.sign? at isDash
  split at isDash
  · cases isDash
  · exact Option.some.inj isDash

structure SetText where
  tokens : List SetToken
  /-- What comes after the closing bracket, if there is one. -/
  rest? : Option (List Char)

namespace SetText

def push (token : SetToken) (text : SetText) : SetText :=
  { text with tokens := token :: text.tokens }

/-- Cut a text that begins at a position of the pattern, up to the first closing bracket that
is not escaped. -/
def ofText (position : Nat) : List Char → SetText
  | [] => ⟨[], none⟩
  | ']' :: rest => ⟨[], some rest⟩
  | '\\' :: c :: rest => (ofText (position + 2) rest).push ⟨c, true, position⟩
  | c :: rest => (ofText (position + 1) rest).push ⟨c, false, position⟩

def marks (text : SetText) : List Char :=
  match text.tokens.map SetToken.sign? with
  | some '|' :: some '!' :: _ => ['|', '!']
  | some '|' :: _ => ['|']
  | some '!' :: _ => ['!']
  | _ => []

def items (text : SetText) : List SetToken := text.tokens.drop text.marks.length

end SetText

/-- The item at an index is a dash that makes a range. The first item is not, nor is the last
one in front of the bracket, nor one that comes directly after such a dash. -/
def isRangeDash (closed : Bool) (items : List SetToken) : Nat → Bool
  | 0 => false
  | index + 1 =>
      items[index + 1]?.any (fun item => decide item.IsDash) &&
        !(closed && index + 2 == items.length) && !isRangeDash closed items index

structure DoubledDash (closed : Bool) (items : List SetToken) (index : Nat)
    (dash : SetToken) : Prop where
  range : isRangeDash closed items index = true
  next : items[index + 1]? = some dash
  isDash : dash.IsDash

structure FirstDoubledDash (closed : Bool) (items : List SetToken) (index : Nat)
    (dash : SetToken) : Prop extends DoubledDash closed items index dash where
  first : ∀ earlier other, DoubledDash closed items earlier other → index ≤ earlier

/-- An item stands for itself unless it makes or ends a range. The range that it ends has the
items on both sides of the dash as bounds. -/
def StandsFor (closed : Bool) (items : List SetToken) (index : Nat) (c : Char) : Prop :=
  (∃ item, items[index]? = some item ∧ isRangeDash closed items index = false ∧
      (∀ before, index = before + 1 → isRangeDash closed items before = false) ∧
      c = item.char) ∨
    ∃ start low high, index = start + 2 ∧ isRangeDash closed items (start + 1) = true ∧
      items[start]? = some low ∧ items[index]? = some high ∧ low.char ≤ c ∧ c ≤ high.char

def Denotes (closed : Bool) (items : List SetToken) (c : Char) : Prop :=
  ∃ index, StandsFor closed items index c

/-! ### One more item -/

def opensRange (items : List SetToken) : Bool := isRangeDash false items (items.length - 1)

section OneMore

variable (closed : Bool) (items : List SetToken) (item : SetToken)

theorem isRangeDash_concat (index : Nat) (inside : index < items.length) :
    isRangeDash closed (items ++ [item]) index = isRangeDash false items index := by
  induction index with
  | zero => rfl
  | succ index ih =>
      have notLast : (index + 2 == (items ++ [item]).length) = false := by
        rw [List.length_append, List.length_singleton, beq_eq_false_iff_ne]
        omega
      simp only [isRangeDash, notLast, Bool.and_false, Bool.false_and, Bool.not_false,
        Bool.and_true]
      rw [List.getElem?_append_left inside, ih (by omega)]

theorem isRangeDash_last :
    isRangeDash closed (items ++ [item]) items.length =
      (!items.isEmpty && decide item.IsDash && !closed && !opensRange items) := by
  cases items with
  | nil => rfl
  | cons first rest =>
      have found : ((first :: rest) ++ [item])[rest.length + 1]? = some item :=
        List.getElem?_concat_length
      have isLast : (rest.length + 2 == ((first :: rest) ++ [item]).length) = true := by
        rw [List.length_append, List.length_cons, List.length_singleton]
        exact beq_self_eq_true _
      have before := isRangeDash_concat closed (first :: rest) item rest.length
        (Nat.lt_succ_self _)
      rw [List.length_cons]
      simp only [isRangeDash, found, isLast, before, opensRange, Option.any_some,
        Bool.and_true, List.isEmpty_cons, Bool.not_false, Bool.true_and, List.length_cons,
        Nat.add_sub_cancel]

theorem opensRange_eq_last :
    opensRange (items ++ [item]) = isRangeDash false (items ++ [item]) items.length := by
  rw [opensRange, List.length_append, List.length_singleton, Nat.add_sub_cancel]

theorem opensRange_concat :
    opensRange (items ++ [item]) =
      (!items.isEmpty && decide item.IsDash && !opensRange items) := by
  rw [opensRange_eq_last, isRangeDash_last, Bool.not_false, Bool.and_true]

theorem opensRange_eq_false_iff :
    opensRange items = false ↔
      ∀ before, items.length = before + 1 → isRangeDash false items before = false := by
  constructor
  · intro shut before size
    rw [opensRange, size, Nat.add_sub_cancel] at shut
    exact shut
  · intro shut
    cases items with
    | nil => rfl
    | cons first rest => exact shut rest.length rfl

private theorem standsFor_congr {closed' : Bool} {items' : List SetToken} {index : Nat} {c : Char}
    (sameItem : ∀ place, place ≤ index → items[place]? = items'[place]?)
    (sameDash : ∀ place, place ≤ index →
      isRangeDash closed items place = isRangeDash closed' items' place)
    (stands : StandsFor closed items index c) : StandsFor closed' items' index c := by
  rcases stands with ⟨found, present, single, after, same⟩ |
      ⟨start, low, high, atEnd, range, atLow, atHigh, bounds⟩
  · left
    refine ⟨found, ?_, ?_, ?_, same⟩
    · rw [← sameItem index (Nat.le_refl _)]
      exact present
    · rw [← sameDash index (Nat.le_refl _)]
      exact single
    · intro before follows
      rw [← sameDash before (by omega)]
      exact after before follows
  · right
    refine ⟨start, low, high, atEnd, ?_, ?_, ?_, bounds⟩
    · rw [← sameDash (start + 1) (by omega)]
      exact range
    · rw [← sameItem start (by omega)]
      exact atLow
    · rw [← sameItem index (Nat.le_refl _)]
      exact atHigh

private theorem standsFor_lt {index : Nat} {c : Char} (stands : StandsFor closed items index c) :
    index < items.length := by
  rcases stands with ⟨found, present, _rest⟩ | ⟨start, low, high, atEnd, range, atLow, atHigh, _⟩
  · exact (List.getElem?_eq_some_iff.mp present).1
  · exact (List.getElem?_eq_some_iff.mp atHigh).1

/-- One more item takes nothing away and changes no earlier item, whether or not the bracket
comes after it. -/
theorem denotes_concat (c : Char) :
    Denotes closed (items ++ [item]) c ↔
      Denotes false items c ∨ StandsFor closed (items ++ [item]) items.length c := by
  constructor
  · intro ⟨index, stands⟩
    have inside := standsFor_lt closed _ stands
    rw [List.length_append, List.length_singleton] at inside
    by_cases atEnd : index = items.length
    · subst index
      exact Or.inr stands
    · left
      refine ⟨index, standsFor_congr closed _ ?_ ?_ stands⟩
      · intro place bound
        exact List.getElem?_append_left (by omega)
      · intro place bound
        exact isRangeDash_concat closed items item place (by omega)
  · intro either
    rcases either with ⟨index, stands⟩ | stands
    · have inside := standsFor_lt false items stands
      refine ⟨index, standsFor_congr false items ?_ ?_ stands⟩
      · intro place bound
        exact (List.getElem?_append_left (by omega)).symm
      · intro place bound
        exact (isRangeDash_concat closed items item place (by omega)).symm
    · exact ⟨items.length, stands⟩

/-- A range dash at the end stands for nothing yet. -/
theorem not_standsFor_of_rangeDash (c : Char)
    (range : isRangeDash closed (items ++ [item]) items.length = true) :
    ¬StandsFor closed (items ++ [item]) items.length c := by
  intro stands
  rcases stands with ⟨_found, _present, single, _⟩ | ⟨start, low, high, atEnd, before, _⟩
  · rw [range] at single
    cases single
  · rw [isRangeDash_last] at range
    simp only [Bool.and_eq_true, Bool.not_eq_true'] at range
    have shut := (opensRange_eq_false_iff items).mp range.2 (start + 1) atEnd
    rw [isRangeDash_concat closed items item (start + 1) (by omega), shut] at before
    cases before

theorem standsFor_last_iff_eq (c : Char)
    (single : isRangeDash closed (items ++ [item]) items.length = false)
    (shut : opensRange items = false) :
    StandsFor closed (items ++ [item]) items.length c ↔ c = item.char := by
  have atLast : (items ++ [item])[items.length]? = some item := List.getElem?_concat_length
  have after := (opensRange_eq_false_iff items).mp shut
  constructor
  · intro stands
    rcases stands with ⟨found, present, _single, _after, same⟩ |
        ⟨start, low, high, atEnd, before, _⟩
    · rw [atLast] at present
      cases present
      exact same
    · rw [isRangeDash_concat closed items item (start + 1) (by omega),
        after (start + 1) atEnd] at before
      cases before
  · intro same
    left
    refine ⟨item, atLast, single, ?_, same⟩
    intro before follows
    rw [isRangeDash_concat closed items item before (by omega)]
    exact after before follows

theorem standsFor_last_iff_range (earlier : List SetToken) (low dash : SetToken) (c : Char)
    (ending : items = earlier ++ [low] ++ [dash]) (opens : opensRange items = true) :
    StandsFor closed (items ++ [item]) items.length c ↔ low.char ≤ c ∧ c ≤ item.char := by
  have size : items.length = earlier.length + 2 := by
    simp [ending]
  have atLast : (items ++ [item])[items.length]? = some item := List.getElem?_concat_length
  have atLow : (items ++ [item])[earlier.length]? = some low := by
    simp [ending]
  have range : isRangeDash closed (items ++ [item]) (earlier.length + 1) = true := by
    rw [isRangeDash_concat closed items item _ (by omega)]
    rwa [opensRange, size] at opens
  constructor
  · intro stands
    rcases stands with ⟨_found, _present, _single, after, _same⟩ |
        ⟨start, found, high, atEnd, _range, present, atHigh, bounds⟩
    · rw [after (earlier.length + 1) size] at range
      cases range
    · have sameStart : start = earlier.length := by omega
      subst start
      rw [atLow] at present
      rw [atLast] at atHigh
      cases present
      cases atHigh
      exact bounds
  · intro bounds
    right
    exact ⟨earlier.length, low, item, size, range, atLow, atLast, bounds⟩

theorem isRangeDash_last_of_shut (shut : opensRange (items ++ [item]) = false) :
    isRangeDash closed (items ++ [item]) items.length = false := by
  rw [opensRange_concat] at shut
  rw [isRangeDash_last, Bool.and_right_comm, shut, Bool.false_and]

private theorem isRangeDash_of_shut (shut : opensRange (items ++ [item]) = false) (index : Nat)
    (inside : index ≤ items.length) :
    isRangeDash true (items ++ [item]) index = isRangeDash false (items ++ [item]) index := by
  rcases Nat.lt_or_eq_of_le inside with before | atEnd
  · rw [isRangeDash_concat true items item index before,
      isRangeDash_concat false items item index before]
  · rw [atEnd, isRangeDash_last_of_shut true items item shut,
      isRangeDash_last_of_shut false items item shut]

theorem denotes_closed_iff (shut : opensRange (items ++ [item]) = false) (c : Char) :
    Denotes true (items ++ [item]) c ↔ Denotes false (items ++ [item]) c := by
  have sameDash := isRangeDash_of_shut items item shut
  rw [denotes_concat true, denotes_concat false]
  refine or_congr_right ⟨?_, ?_⟩
  · intro stands
    exact standsFor_congr true _ (fun _ _ => rfl) sameDash stands
  · intro stands
    exact standsFor_congr false _ (fun _ _ => rfl)
      (fun place bound => (sameDash place bound).symm) stands

theorem doubledDash_concat (index : Nat) (dash : SetToken) :
    DoubledDash closed (items ++ [item]) index dash ↔
      DoubledDash false items index dash ∨
        (index + 1 = items.length ∧ dash = item ∧ item.IsDash ∧ opensRange items = true) := by
  constructor
  · intro doubled
    have inside := (List.getElem?_eq_some_iff.mp doubled.next).1
    rw [List.length_append, List.length_singleton] at inside
    have range := doubled.range
    rw [isRangeDash_concat closed items item index (by omega)] at range
    have next := doubled.next
    by_cases atEnd : index + 1 = items.length
    · rw [atEnd, List.getElem?_concat_length] at next
      cases next
      refine Or.inr ⟨atEnd, rfl, doubled.isDash, ?_⟩
      rw [opensRange, ← atEnd, Nat.add_sub_cancel]
      exact range
    · rw [List.getElem?_append_left (by omega)] at next
      exact Or.inl ⟨range, next, doubled.isDash⟩
  · intro either
    rcases either with doubled | ⟨atEnd, same, isDash, opens⟩
    · have inside := (List.getElem?_eq_some_iff.mp doubled.next).1
      refine ⟨?_, ?_, doubled.isDash⟩
      · rw [isRangeDash_concat closed items item index (by omega)]
        exact doubled.range
      · rw [List.getElem?_append_left inside]
        exact doubled.next
    · subst dash
      refine ⟨?_, ?_, isDash⟩
      · rw [isRangeDash_concat closed items item index (by omega)]
        rw [opensRange, ← atEnd, Nat.add_sub_cancel] at opens
        exact opens
      · rw [atEnd, List.getElem?_concat_length]

variable {closed items item}

theorem not_doubledDash_concat (single : ∀ index dash, ¬DoubledDash false items index dash)
    (notDoubled : ¬(item.IsDash ∧ opensRange items = true)) (index : Nat) (dash : SetToken) :
    ¬DoubledDash closed (items ++ [item]) index dash := by
  intro doubled
  rcases (doubledDash_concat closed items item index dash).mp doubled with
    inFront | ⟨_atEnd, _same, isDash, opens⟩
  · exact single index dash inFront
  · exact notDoubled ⟨isDash, opens⟩

theorem FirstDoubledDash.concat {index : Nat} {dash : SetToken}
    (found : FirstDoubledDash false items index dash) :
    FirstDoubledDash closed (items ++ [item]) index dash := by
  constructor
  · exact (doubledDash_concat closed items item index dash).mpr (Or.inl found.toDoubledDash)
  · intro earlier other also
    rcases (doubledDash_concat closed items item earlier other).mp also with
      inFront | ⟨atEnd, _same, _isDash, _opens⟩
    · exact found.first earlier other inFront
    · have inside := (List.getElem?_eq_some_iff.mp found.next).1
      omega

theorem firstDoubledDash_last (single : ∀ index dash, ¬DoubledDash false items index dash)
    (isDash : item.IsDash) (opens : opensRange items = true) :
    FirstDoubledDash closed (items ++ [item]) (items.length - 1) item := by
  cases items with
  | nil => cases opens
  | cons first rest =>
      constructor
      · exact (doubledDash_concat closed (first :: rest) item _ item).mpr
          (Or.inr ⟨rfl, rfl, isDash, opens⟩)
      · intro earlier other also
        rcases (doubledDash_concat closed (first :: rest) item earlier other).mp also with
          inFront | ⟨atEnd, _same, _isDash, _opens⟩
        · exact (single earlier other inFront).elim
        · exact Nat.le_of_succ_le_succ (Nat.le_of_eq atEnd.symm)

end OneMore

theorem not_denotes_nil (closed : Bool) (c : Char) : ¬Denotes closed [] c := by
  intro ⟨index, stands⟩
  exact Nat.not_lt_zero index (standsFor_lt closed [] stands)

/-- The bracket matters to the last item only, and nothing follows that one. -/
theorem doubledDash_iff_unclosed (closed : Bool) (items : List SetToken) (index : Nat)
    (dash : SetToken) :
    DoubledDash closed items index dash ↔ DoubledDash false items index dash := by
  rcases List.eq_nil_or_concat items with none | ⟨front, item, more⟩
  · subst items
    constructor
    · intro doubled
      exact nomatch doubled.next
    · intro doubled
      exact nomatch doubled.next
  · rw [more, List.concat_eq_append, doubledDash_concat, doubledDash_concat]

theorem firstDoubledDash_iff_unclosed (closed : Bool) (items : List SetToken) (index : Nat)
    (dash : SetToken) :
    FirstDoubledDash closed items index dash ↔ FirstDoubledDash false items index dash := by
  have same := doubledDash_iff_unclosed closed items
  constructor
  · intro found
    refine ⟨(same index dash).mp found.toDoubledDash, ?_⟩
    intro earlier other also
    exact found.first earlier other ((same earlier other).mpr also)
  · intro found
    refine ⟨(same index dash).mpr found.toDoubledDash, ?_⟩
    intro earlier other also
    exact found.first earlier other ((same earlier other).mp also)

theorem FirstDoubledDash.unique {closed : Bool} {items : List SetToken} {left right : Nat}
    {dash other : SetToken} (atLeft : FirstDoubledDash closed items left dash)
    (atRight : FirstDoubledDash closed items right other) : dash = other := by
  have sameIndex : left = right :=
    Nat.le_antisymm (atLeft.first right other atRight.toDoubledDash)
      (atRight.first left dash atLeft.toDoubledDash)
  subst right
  have same := atLeft.next.symm.trans atRight.next
  cases same
  rfl

end InputMask.Pattern
