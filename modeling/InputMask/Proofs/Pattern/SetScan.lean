/-
Where the scanner leaves a set. Reading a pattern inside a set either runs into a fault, at a
character or at the end, or comes to the closing bracket; what is read after it depends on the
set only through the slot. So a statement about a set need only speak of the text of the set.
-/
import InputMask.Pattern.Scanner

namespace InputMask.Pattern

namespace SetDraft

def finish (position : Nat) (draft : SetDraft) :
    List Char → Except Fault (SetSlot × List Char)
  | [] => .error ⟨.unclosedSet, draft.openedAt⟩
  | c :: rest =>
      match draft.readChar position c with
      | .error fault => .error fault
      | .ok (.reading further) => finish (position + 1) further rest
      | .ok (.closed slot) => .ok (slot, rest)

inductive Outcome (position : Nat) (draft : SetDraft) (c : Char) :
    Except Fault SetProgress → Prop where
  | reading (further : SetDraft) (sameBracket : further.openedAt = draft.openedAt)
      (escapes : further.escaped = (c == '\\' && !draft.escaped)) :
      Outcome position draft c (.ok (.reading further))
  | closed (slot : SetSlot) (bracket : c = ']') : Outcome position draft c (.ok (.closed slot))
  | empty (bracket : c = ']') : Outcome position draft c (.error ⟨.emptySet, draft.openedAt⟩)
  | doubled (dash : c = '-') : Outcome position draft c (.error ⟨.doubledDash, position⟩)

theorem readChar_outcome (position : Nat) (draft : SetDraft) (c : Char) :
    draft.Outcome position c (draft.readChar position c) := by
  obtain ⟨openedAt, negated, optional, escaped, items⟩ := draft
  cases escaped with
  | true => exact .reading _ rfl (Bool.and_false _).symm
  | false =>
      simp only [readChar, Bool.false_eq_true, if_false]
      split
      · exact .reading _ rfl rfl
      · cases items with
        | blank => exact .empty rfl
        | listed members last => exact .closed _ rfl
        | dashed members last => exact .closed _ rfl
      · cases items with
        | blank => exact .reading _ rfl rfl
        | listed members last => exact .reading _ rfl rfl
        | dashed members last => exact .doubled rfl
      · split <;> exact .reading _ rfl rfl
      · split <;> exact .reading _ rfl rfl
      · rename_i noBackslash _ _ _ _
        have noEscape : (c == '\\' && !false) = false :=
          Bool.and_eq_false_iff.mpr (Or.inl (beq_eq_false_iff_ne.mpr noBackslash))
        exact .reading _ rfl noEscape.symm

theorem eq_bracket_of_closed {position : Nat} {draft : SetDraft} {c : Char} {slot : SetSlot}
    (closed : draft.readChar position c = .ok (.closed slot)) : c = ']' := by
  have outcome := readChar_outcome position draft c
  rw [closed] at outcome
  cases outcome with
  | closed _slot bracket => exact bracket

end SetDraft

namespace Scanner

/-- The pattern cannot be read on over this text: there is a fault in it or at its end. -/
def Fails (position : Nat) (scanner : Scanner) (text : List Char) (fault : Fault) : Prop :=
  match scan position scanner text with
  | .error found => found = fault
  | .ok (_, last) => last.faultAtEnd? = some fault

theorem Fails.cons {position : Nat} {scanner next : Scanner} {c : Char} {element? : Option Element}
    {rest : List Char} {fault : Fault}
    (moved : scanner.readChar position c = .ok (next, element?))
    (later : next.Fails (position + 1) rest fault) : scanner.Fails position (c :: rest) fault := by
  unfold Fails at later ⊢
  simp only [scan, moved]
  cases outcome : scan (position + 1) next rest with
  | error found =>
      rw [outcome] at later
      exact later
  | ok result =>
      rw [outcome] at later
      exact later

theorem Fails.append {position : Nat} {scanner middle : Scanner} {left right : List Char}
    {elements : List Element} {fault : Fault}
    (read : scan position scanner left = .ok (elements, middle))
    (later : middle.Fails (position + left.length) right fault) :
    scanner.Fails position (left ++ right) fault := by
  unfold Fails at later ⊢
  simp only [scan_append, read]
  cases outcome : scan (position + left.length) middle right with
  | error found =>
      rw [outcome] at later
      exact later
  | ok result =>
      rw [outcome] at later
      exact later

theorem fails_of_finish {position : Nat} {scanner : Scanner} {draft : SetDraft}
    {text : List Char} {fault : Fault} (inside : scanner.mode = .inSet draft)
    (finished : draft.finish position text = .error fault) :
    scanner.Fails position text fault := by
  induction text generalizing position scanner draft with
  | nil =>
      cases finished
      simp only [Fails, scan, faultAtEnd?, inside]
  | cons c rest ih =>
      unfold SetDraft.finish at finished
      cases progress : draft.readChar position c with
      | error found =>
          rw [progress] at finished
          cases finished
          simp only [Fails, scan, readChar, inside, progress]
      | ok outcome =>
          cases outcome with
          | reading further =>
              rw [progress] at finished
              have moved : scanner.readChar position c =
                  .ok ({ scanner with mode := .inSet further }, none) := by
                simp only [readChar, inside, progress]
              exact Fails.cons moved (ih rfl finished)
          | closed slot =>
              rw [progress] at finished
              cases finished

theorem scan_of_finish {position : Nat} {scanner : Scanner} {draft : SetDraft}
    {text rest : List Char} {slot : SetSlot} (inside : scanner.mode = .inSet draft)
    (finished : draft.finish position text = .ok (slot, rest)) :
    ∃ body, text = body ++ ']' :: rest ∧
      scan position scanner (body ++ [']']) =
        .ok ([.charSet slot], { scanner with mode := .plain }) := by
  induction text generalizing position scanner draft with
  | nil => cases finished
  | cons c later ih =>
      unfold SetDraft.finish at finished
      cases progress : draft.readChar position c with
      | error found =>
          rw [progress] at finished
          cases finished
      | ok outcome =>
          cases outcome with
          | reading further =>
              rw [progress] at finished
              have moved : scanner.readChar position c =
                  .ok ({ scanner with mode := .inSet further }, none) := by
                simp only [readChar, inside, progress]
              have stillInside :
                  ({ scanner with mode := .inSet further } : Scanner).mode = .inSet further := rfl
              rcases ih stillInside finished with ⟨body, cut, read⟩
              refine ⟨c :: body, ?_, ?_⟩
              · rw [cut, List.cons_append]
              · simp only [List.cons_append, scan, moved, read, Option.toList_none,
                  List.nil_append]
          | closed closing =>
              rw [progress] at finished
              cases finished
              have bracket := SetDraft.eq_bracket_of_closed progress
              subst bracket
              refine ⟨[], rfl, ?_⟩
              simp only [List.nil_append, scan, readChar, inside, progress,
                Option.toList_some, List.append_nil]

/-- A bracket that is no literal opens a set. -/
theorem readChar_bracket {scanner : Scanner} (position : Nat)
    (outside : scanner.mode = .plain ∨ scanner.mode = .afterLower) :
    scanner.readChar position '[' =
      .ok ({ scanner with mode := .inSet (SetDraft.opened position) }, none) := by
  unfold readChar
  rcases outside with plain | afterLower
  · rw [plain]
    rfl
  · rw [afterLower]
    rfl

end Scanner

end InputMask.Pattern

namespace InputMask

open Pattern in
/-- What has been read already does not matter to a fault further on. -/
theorem Mask.ofPattern_of_fails {before text : List Char} {elements : List Element}
    {scanner : Scanner} {fault : Fault}
    (reached : Scanner.scan 0 Scanner.start before = .ok (elements, scanner))
    (fails : scanner.Fails before.length text fault) :
    Mask.ofPattern (before ++ text) = .error fault := by
  unfold Scanner.Fails at fails
  simp only [Mask.ofPattern, Scanner.scan_append, reached, Nat.zero_add]
  cases outcome : Scanner.scan before.length scanner text with
  | error found =>
      rw [outcome] at fails
      cases fails
      rfl
  | ok result =>
      rw [outcome] at fails
      simp only [fails]

end InputMask
