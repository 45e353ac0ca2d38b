/-
Masks written as patterns. The elements that patterns denote are restricted in a few ways: no
sign stands for a required signed digit, a region has no effect on the digit kinds, and a set has
members and at most one mark. Every mask within these bounds can be written, so the patterns
denote exactly these masks.

Every character of a set and every literal is written with a backslash, and every typed slot
opens its own region. So what is written for an element means the same behind any other.
-/
import InputMask.Proofs.Pattern.TokenReading

namespace InputMask

/-! ### Elements within bounds -/

structure TypedSlot.WellFormed (slot : TypedSlot) : Prop where
  signed : slot.kind = .signedDigit → slot.required = false
  caseless : slot.kind = .binaryDigit ∨ slot.kind = .digit ∨ slot.kind = .signedDigit →
    slot.shift = .unchanged

structure SetSlot.WellFormed (slot : SetSlot) : Prop where
  inhabited : ∃ c, c ∈ slot.members
  oneMark : ¬(slot.negated = true ∧ slot.optional = true)

theorem SlotKind.sign?_eq_none_iff (kind : SlotKind) (required : Bool) :
    kind.sign? required = none ↔ kind = .signedDigit ∧ required = true := by
  cases kind <;> cases required <;> simp [sign?]

theorem TypedSlot.WellFormed.shiftIn_eq {slot : TypedSlot} (wellFormed : slot.WellFormed) :
    slot.kind.shiftIn slot.shift = slot.shift := by
  obtain ⟨kind, required, shift⟩ := slot
  cases kind with
  | letter | alphanumeric | any | hexDigit => rfl
  | binaryDigit => exact (wellFormed.caseless (Or.inl rfl)).symm
  | digit => exact (wellFormed.caseless (Or.inr (Or.inl rfl))).symm
  | signedDigit => exact (wellFormed.caseless (Or.inr (Or.inr rfl))).symm

theorem TypedSlot.WellFormed.exists_sign {slot : TypedSlot} (wellFormed : slot.WellFormed) :
    ∃ sign, slot.kind.sign? slot.required = some sign := by
  cases written : slot.kind.sign? slot.required with
  | some sign => exact ⟨sign, rfl⟩
  | none =>
      obtain ⟨signed, required⟩ := (SlotKind.sign?_eq_none_iff _ _).mp written
      rw [wellFormed.signed signed] at required
      cases required

theorem SetSlot.WellFormed.optional_eq {slot : SetSlot} (wellFormed : slot.WellFormed) :
    (slot.optional && !slot.negated) = slot.optional := by
  cases negated : slot.negated with
  | false => exact Bool.and_true _
  | true =>
      have mandatory : slot.optional = false :=
        Bool.eq_false_iff.mpr fun optional => wellFormed.oneMark ⟨negated, optional⟩
      rw [mandatory, Bool.false_and]

def Element.WellFormed : Element → Prop
  | literal _ | dateSeparator | timeSeparator => True
  | typed slot => slot.WellFormed
  | charSet slot => slot.WellFormed

def Mask.WellFormed (mask : Mask) : Prop := ∀ element ∈ mask.elements, element.WellFormed

namespace Pattern

theorem SetText.Describes.wellFormed {text : SetText} {slot : SetSlot}
    (described : text.Describes slot) : slot.WellFormed := by
  constructor
  · -- No dash makes a range in the first place, so the first item stands for itself.
    obtain ⟨first, rest, items⟩ := List.exists_cons_of_ne_nil described.listed
    have present : text.items[0]? = some first := by rw [items, List.getElem?_cons_zero]
    have stands : StandsFor true text.items 0 first.char :=
      Or.inl ⟨first, present, rfl, nofun, rfl⟩
    exact ⟨first.char, (described.members first.char).mpr ⟨0, stands⟩⟩
  · rintro ⟨negated, optional⟩
    rw [described.negated, decide_eq_true_iff] at negated
    rw [described.optional, decide_eq_true_iff] at optional
    rw [optional] at negated
    exact absurd negated (by decide)

theorem Token.Denotes.wellFormed {region : CaseShift} {token : Token} {element : Element}
    (denoted : Token.Denotes region token element) : element.WellFormed := by
  cases denoted with
  | escape c => trivial
  | set body slot described => exact described.wellFormed
  | dateSeparator => trivial
  | timeSeparator => trivial
  | typed kind required sign written =>
      constructor
      · intro signed
        refine Bool.eq_false_iff.mpr ?_
        intro demanded
        rw [(SlotKind.sign?_eq_none_iff kind required).mpr ⟨signed, demanded⟩] at written
        cases written
      · rintro (same | same | same)
        all_goals
          cases same
          rfl
  | literal c noDate noTime noSlot => trivial

theorem Token.Spell.wellFormed {before tokens : List Token} {elements : List Element}
    (spelled : Token.Spell before tokens elements) :
    ∀ element ∈ elements, element.WellFormed := by
  unfold Token.Spell at spelled
  generalize (Token.inRegions before tokens).filter (·.2.hasElement) = shown at spelled
  induction spelled with
  | nil => exact nofun
  | cons denoted _others ih =>
      intro element member
      rcases List.mem_cons.mp member with same | inRest
      · rw [same]
        exact denoted.wellFormed
      · exact ih element inRest

end Pattern

/-! ### Elements as they are written -/

def CaseShift.written : CaseShift → List Char
  | unchanged => ['<', '>']
  | upper => ['>']
  | lower => ['<']

def TypedSlot.written (slot : TypedSlot) : List Char :=
  slot.shift.written ++ (slot.kind.sign? slot.required).toList

def SetSlot.mark (slot : SetSlot) : List Char :=
  if slot.negated then ['!'] else if slot.optional then ['|'] else []

def escapedChars (chars : List Char) : List Char := chars.flatMap fun c => ['\\', c]

def SetSlot.written (slot : SetSlot) : List Char :=
  '[' :: (slot.mark ++ (escapedChars slot.members.members ++ [']']))

def Element.written : Element → List Char
  | literal c => ['\\', c]
  | dateSeparator => ['/']
  | timeSeparator => [':']
  | typed slot => slot.written
  | charSet slot => slot.written

def Mask.written (mask : Mask) : List Char :=
  (if mask.rightToLeft then ['!'] else []) ++ mask.elements.flatMap Element.written

namespace Pattern

/-! ### Written sets -/

private theorem SetItems.foldl_add_listed (members : CharSet) (last : Char) (chars : List Char) :
    ∃ all final, chars.foldl add (listed members last) = listed all final ∧
      ∀ c, c ∈ all ↔ c ∈ members ∨ c ∈ chars := by
  induction chars generalizing members last with
  | nil =>
      have named : ∀ c, c ∈ members ↔ c ∈ members ∨ c ∈ [] := by
        intro c
        rw [or_iff_left List.not_mem_nil]
      exact ⟨members, last, rfl, named⟩
  | cons d rest ih =>
      obtain ⟨all, final, items, further⟩ := ih (members.insert d) d
      have named : ∀ c, c ∈ all ↔ c ∈ members ∨ c ∈ d :: rest := by
        intro c
        rw [further c, CharSet.mem_insert, List.mem_cons, or_assoc]
      exact ⟨all, final, items, named⟩

private theorem SetItems.foldl_add_blank {chars : List Char} (some : chars ≠ []) :
    ∃ all final, chars.foldl add blank = listed all final ∧ ∀ c, c ∈ all ↔ c ∈ chars := by
  obtain ⟨first, rest, split⟩ := List.exists_cons_of_ne_nil some
  subst split
  obtain ⟨all, final, items, further⟩ :=
    foldl_add_listed (CharSet.empty.insert first) first rest
  have named : ∀ c, c ∈ all ↔ c ∈ first :: rest := by
    intro c
    have nothing : ¬c ∈ CharSet.empty := nofun
    rw [further c, CharSet.mem_insert, or_iff_right nothing, List.mem_cons]
  exact ⟨all, final, items, named⟩

namespace SetDraft

private theorem foldl_add {draft : SetDraft} (fresh : draft.escaped = false) (chars : List Char) :
    chars.foldl add draft = { draft with items := chars.foldl SetItems.add draft.items } := by
  induction chars generalizing draft with
  | nil => rfl
  | cons c rest ih =>
      rw [List.foldl_cons, List.foldl_cons, ih rfl, add, ← fresh]

/-- Characters behind backslashes are items, whatever they are. -/
private theorem finish_escapedChars (position : Nat) {draft : SetDraft}
    (fresh : draft.escaped = false)
    (chars text : List Char) :
    draft.finish position (escapedChars chars ++ text) =
      (chars.foldl add draft).finish (position + 2 * chars.length) text := by
  induction chars generalizing position draft with
  | nil => rfl
  | cons c rest ih =>
      have taken : ({ draft with escaped := true } : SetDraft).readChar (position + 1) c =
          .ok (.reading (draft.add c)) := rfl
      have further := ih (position + 2) (rfl : (draft.add c).escaped = false)
      rw [Nat.add_assoc, Nat.add_comm 2] at further
      simp only [escapedChars, List.flatMap_cons, List.cons_append, List.nil_append, finish,
        readChar_backslash position draft fresh, taken]
      exact further

private theorem finish_mark (position : Nat) {slot : SetSlot} (wellFormed : slot.WellFormed)
    (text : List Char) :
    (opened position).finish (position + 1) (slot.mark ++ text) =
      (⟨position, slot.negated, slot.optional, false, .blank⟩ : SetDraft).finish
        (position + 1 + slot.mark.length) text := by
  have oneMark := wellFormed.oneMark
  obtain ⟨members, negated, optional⟩ := slot
  cases negated with
  | false => cases optional <;> rfl
  | true =>
      cases optional with
      | false => rfl
      | true => exact (oneMark ⟨rfl, rfl⟩).elim

theorem finish_written (position : Nat) {slot : SetSlot} (wellFormed : slot.WellFormed)
    (rest : List Char) :
    (opened position).finish (position + 1)
        (slot.mark ++ (escapedChars slot.members.members ++ ']' :: rest)) = .ok (slot, rest) := by
  have some : slot.members.members ≠ [] := by
    obtain ⟨c, member⟩ := wellFormed.inhabited
    exact List.ne_nil_of_mem member
  obtain ⟨all, final, items, named⟩ := SetItems.foldl_add_blank some
  have same : all = slot.members := CharSet.eq_of_mem_iff named
  subst same
  rw [finish_mark position wellFormed, finish_escapedChars _ rfl, foldl_add rfl, items, finish,
    readChar_closingBracket _ _ rfl]
  simp only [close, SetDraft.slot, wellFormed.optional_eq]

end SetDraft

/-! ### Written elements -/

namespace Scanner

variable {scanner : Scanner} (position : Nat)

private theorem readPlain_sign {kind : SlotKind} {required : Bool} {sign : Char}
    (written : kind.sign? required = some sign) (closingAngle : CaseShift) :
    scanner.readPlain position closingAngle sign =
      ({ scanner with mode := .plain },
        some (.typed ⟨kind, required, kind.shiftIn scanner.shift⟩)) := by
  cases kind <;> cases required <;> cases written <;> rfl

/-- A region is opened from any other. -/
private theorem scan_shift (plain : scanner.mode = .plain) (shift : CaseShift) :
    ∃ mode, (mode = .plain ∨ mode = .afterLower) ∧
      scan position scanner shift.written =
        .ok ([], { scanner with mode := mode, shift := shift }) := by
  obtain ⟨mode, before, rightToLeft⟩ := scanner
  cases plain
  cases shift with
  | unchanged => exact ⟨.plain, Or.inl rfl, rfl⟩
  | upper => exact ⟨.plain, Or.inl rfl, rfl⟩
  | lower => exact ⟨.afterLower, Or.inr rfl, rfl⟩

theorem scan_typed (plain : scanner.mode = .plain) {slot : TypedSlot}
    (wellFormed : slot.WellFormed) :
    scan position scanner slot.written =
      .ok ([.typed slot], { scanner with shift := slot.shift }) := by
  obtain ⟨sign, written⟩ := wellFormed.exists_sign
  obtain ⟨kind, required, shift⟩ := slot
  dsimp only at written
  have effective : kind.shiftIn shift = shift := wellFormed.shiftIn_eq
  obtain ⟨mode, outside, opened⟩ := scan_shift position plain shift
  rw [TypedSlot.written, scan_append, opened, written]
  rcases outside with same | same
  · simp [scan, readChar, same, readPlain_sign _ written, effective, plain]
  · simp [scan, readChar, same, readPlain_sign _ written, effective, plain]

theorem scan_charSet (plain : scanner.mode = .plain) {slot : SetSlot}
    (wellFormed : slot.WellFormed) :
    scan position scanner slot.written = .ok ([.charSet slot], scanner) := by
  have opened := readChar_bracket position (Or.inl plain)
  have inside : ({ scanner with mode := .inSet (SetDraft.opened position) } : Scanner).mode =
    .inSet (SetDraft.opened position) := rfl
  obtain ⟨body, split, read⟩ :=
    scan_of_finish inside (SetDraft.finish_written position wellFormed [])
  rw [SetSlot.written, scan, opened]
  simp only [split, read, Option.toList_none, List.nil_append]
  rw [← plain]

/-- What is written for an element yields that element. It leaves no more than a region. -/
theorem scan_element (plain : scanner.mode = .plain) {element : Element}
    (wellFormed : element.WellFormed) :
    ∃ shift, scan position scanner element.written =
      .ok ([element], { scanner with shift := shift }) := by
  cases element with
  | literal c =>
      exists scanner.shift
      simp [Element.written, scan, readChar, readPlain, plain]
  | dateSeparator =>
      exists scanner.shift
      simp [Element.written, scan, readChar, readPlain, elementOf, plain]
  | timeSeparator =>
      exists scanner.shift
      simp [Element.written, scan, readChar, readPlain, elementOf, plain]
  | typed slot => exact ⟨slot.shift, scan_typed position plain wellFormed⟩
  | charSet slot => exact ⟨scanner.shift, scan_charSet position plain wellFormed⟩

theorem scan_elements (plain : scanner.mode = .plain) {elements : List Element}
    (wellFormed : ∀ element ∈ elements, element.WellFormed) :
    ∃ shift, scan position scanner (elements.flatMap Element.written) =
      .ok (elements, { scanner with shift := shift }) := by
  induction elements generalizing position scanner with
  | nil => exact ⟨scanner.shift, rfl⟩
  | cons element rest ih =>
      obtain ⟨first, read⟩ :=
        scan_element position plain (wellFormed element List.mem_cons_self)
      obtain ⟨last, readRest⟩ := @ih { scanner with shift := first }
        (position + element.written.length) plain
        fun other member => wellFormed other (List.mem_cons_of_mem element member)
      exists last
      rw [List.flatMap_cons, scan_append, read]
      simp only [readRest, List.singleton_append]

end Scanner

end Pattern

namespace Mask

open Pattern

theorem ofPattern_written {mask : Mask} (wellFormed : mask.WellFormed) :
    ofPattern mask.written = .ok mask := by
  obtain ⟨elements, rightToLeft⟩ := mask
  have direction : Scanner.scan 0 Scanner.start (if rightToLeft then ['!'] else []) =
      .ok ([], { Scanner.start with rightToLeft := rightToLeft }) := by
    cases rightToLeft <;> rfl
  have plain : ({ Scanner.start with rightToLeft := rightToLeft } : Scanner).mode = .plain := rfl
  obtain ⟨shift, read⟩ := Scanner.scan_elements
    (0 + (if rightToLeft then ['!'] else []).length) plain wellFormed
  simp only [ofPattern, written, Scanner.scan_append, direction, read, List.nil_append]
  rfl

/-- The case marks stand in front of the slot, and a literal angle is no mark. -/
example : written ⟨[.typed ⟨.hexDigit, true, .unchanged⟩, .literal '<'], true⟩ =
    ['!', '<', '>', 'H', '\\', '<'] := rfl

theorem wellFormed_of_ofPattern {pattern : List Char} {mask : Mask}
    (denoted : ofPattern pattern = .ok mask) : mask.WellFormed := by
  have spelled := ofPattern_spelled pattern
  rw [denoted] at spelled
  exact spelled.2.1.wellFormed

/-- Some pattern denotes a mask exactly if each of its elements is within bounds. -/
theorem exists_pattern_iff_wellFormed (mask : Mask) :
    (∃ pattern, ofPattern pattern = .ok mask) ↔ mask.WellFormed := by
  constructor
  · rintro ⟨pattern, denoted⟩
    exact wellFormed_of_ofPattern denoted
  · intro wellFormed
    exact ⟨mask.written, ofPattern_written wellFormed⟩

end Mask

end InputMask
