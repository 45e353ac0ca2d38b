/-
Where patterns fail. A scanner inside a set still holds everything that it held at the opening
bracket, and the draft keeps the position of that bracket. So the text in front of a set is a
pattern by itself, and a set that is merely not closed can always be completed. The other two
faults arise at a character, and no text after it can undo them.
-/
import Mathlib.Data.List.Induction
import InputMask.Proofs.Pattern.SetScan

namespace InputMask.Pattern

namespace SetDraft

variable {position : Nat} {draft : SetDraft} {c : Char}

theorem readChar_error {fault : Fault} (failed : draft.readChar position c = .error fault) :
    (c = ']' ∧ fault = ⟨.emptySet, draft.openedAt⟩) ∨
      (c = '-' ∧ fault = ⟨.doubledDash, position⟩) := by
  have outcome := readChar_outcome position draft c
  rw [failed] at outcome
  cases outcome with
  | empty bracket => exact Or.inl ⟨bracket, rfl⟩
  | doubled dash => exact Or.inr ⟨dash, rfl⟩

private theorem openedAt_of_readChar {further : SetDraft}
    (read : draft.readChar position c = .ok (.reading further)) :
    further.openedAt = draft.openedAt := by
  have outcome := readChar_outcome position draft c
  rw [read] at outcome
  cases outcome with
  | reading _further sameBracket _escapes => exact sameBracket

private theorem readChar_letter (position : Nat) (draft : SetDraft) :
    draft.readChar position 'a' = .ok (.reading (draft.add 'a')) := by
  unfold readChar
  split <;> rfl

/-- A set that lists an item can be closed. -/
private theorem readChar_bracket_after_add (position : Nat) (draft : SetDraft) (c : Char) :
    ∃ slot, (draft.add c).readChar position ']' = .ok (.closed slot) := by
  have closing : (draft.add c).readChar position ']' = (draft.add c).close := rfl
  rw [closing, close]
  cases items : (draft.add c).items with
  | blank =>
      change draft.items.add c = .blank at items
      cases held : draft.items <;> rw [held] at items <;> cases items
  | listed members last => exact ⟨_, rfl⟩
  | dashed members last => exact ⟨_, rfl⟩

end SetDraft

namespace Scanner

section OneCharacter

variable {position : Nat} {scanner next : Scanner} {c : Char} {element? : Option Element}

theorem readChar_error {fault : Fault} (failed : scanner.readChar position c = .error fault) :
    ∃ draft, scanner.mode = .inSet draft ∧ draft.readChar position c = .error fault := by
  unfold readChar at failed
  cases mode : scanner.mode with
  | plain => rw [mode] at failed; cases failed
  | afterLower => rw [mode] at failed; cases failed
  | escaped => rw [mode] at failed; cases failed
  | inSet draft =>
      rw [mode] at failed
      refine ⟨draft, rfl, ?_⟩
      dsimp only at failed
      cases progress : draft.readChar position c with
      | error found =>
          rw [progress] at failed
          cases failed
          rfl
      | ok outcome =>
          rw [progress] at failed
          cases outcome <;> cases failed

private theorem readPlain_into_set {closingAngle : CaseShift} {draft : SetDraft}
    (moved : scanner.readPlain position closingAngle c = (next, element?))
    (inside : next.mode = .inSet draft) :
    c = '[' ∧ draft = SetDraft.opened position ∧ element? = none ∧
      next = { scanner with mode := .inSet (SetDraft.opened position) } := by
  unfold readPlain at moved
  split at moved <;> cases moved <;> cases inside
  exact ⟨rfl, rfl, rfl, rfl⟩

/-- A scanner is inside a set because the bracket came just now or because it was there before. -/
private theorem readChar_into_set {draft : SetDraft}
    (moved : scanner.readChar position c = .ok (next, element?))
    (inside : next.mode = .inSet draft) :
    element? = none ∧ next = { scanner with mode := .inSet draft } ∧
      (((scanner.mode = .plain ∨ scanner.mode = .afterLower) ∧ c = '[' ∧
          draft = SetDraft.opened position) ∨
        ∃ earlier, scanner.mode = .inSet earlier ∧ draft.openedAt = earlier.openedAt) := by
  unfold readChar at moved
  cases mode : scanner.mode with
  | plain =>
      rw [mode] at moved
      rcases readPlain_into_set (Except.ok.inj moved) inside with ⟨bracket, opened, none, same⟩
      subst draft
      exact ⟨none, same, Or.inl ⟨Or.inl rfl, bracket, rfl⟩⟩
  | afterLower =>
      rw [mode] at moved
      rcases readPlain_into_set (Except.ok.inj moved) inside with ⟨bracket, opened, none, same⟩
      subst draft
      exact ⟨none, same, Or.inl ⟨Or.inr rfl, bracket, rfl⟩⟩
  | escaped =>
      rw [mode] at moved
      cases moved
      cases inside
  | inSet earlier =>
      rw [mode] at moved
      dsimp only at moved
      cases progress : earlier.readChar position c with
      | error found =>
          rw [progress] at moved
          cases moved
      | ok outcome =>
          rw [progress] at moved
          cases outcome with
          | reading further =>
              cases moved
              cases inside
              exact ⟨rfl, rfl, Or.inr ⟨earlier, rfl, SetDraft.openedAt_of_readChar progress⟩⟩
          | closed slot =>
              cases moved
              cases inside

end OneCharacter

theorem scan_concat (position : Nat) (scanner : Scanner) (front : List Char) (c : Char) :
    scan position scanner (front ++ [c]) =
      (match scan position scanner front with
      | .error fault => .error fault
      | .ok (elements, middle) =>
          match middle.readChar (position + front.length) c with
          | .error fault => .error fault
          | .ok (next, element?) => .ok (elements ++ element?.toList, next)) := by
  rw [scan_append]
  cases scan position scanner front with
  | error fault => rfl
  | ok outcome =>
      obtain ⟨elements, middle⟩ := outcome
      simp only [scan]
      cases middle.readChar (position + front.length) c with
      | error fault => rfl
      | ok step =>
          obtain ⟨next, element?⟩ := step
          simp only [List.append_nil]

/-- What the scanner held at the opening bracket is kept until the set is closed. -/
theorem scan_inSet {pattern : List Char} {elements : List Element} {scanner : Scanner}
    {draft : SetDraft} (reached : scan 0 start pattern = .ok (elements, scanner))
    (inside : scanner.mode = .inSet draft) :
    ∃ before body outer, pattern = before ++ '[' :: body ∧ draft.openedAt = before.length ∧
      scan 0 start before = .ok (elements, outer) ∧
      (outer.mode = .plain ∨ outer.mode = .afterLower) ∧
      scanner = { outer with mode := .inSet draft } := by
  -- From the back: each character of the body leaves the bracket where it was.
  induction pattern using List.reverseRecOn generalizing elements scanner draft with
  | nil =>
      cases reached
      cases inside
  | append_singleton front c ih =>
      rw [scan_concat, Nat.zero_add] at reached
      cases outcome : scan 0 start front with
      | error fault =>
          rw [outcome] at reached
          cases reached
      | ok result =>
          obtain ⟨earlier, middle⟩ := result
          rw [outcome] at reached
          dsimp only at reached
          cases step : middle.readChar front.length c with
          | error fault =>
              rw [step] at reached
              cases reached
          | ok moved =>
              obtain ⟨next, element?⟩ := moved
              rw [step] at reached
              cases reached
              obtain ⟨none, same, opening | ⟨held, heldInside, sameBracket⟩⟩ :=
                readChar_into_set step inside
              · obtain ⟨outside, bracket, opened⟩ := opening
                subst none c draft
                refine ⟨front, [], middle, rfl, rfl, ?_, outside, same⟩
                rw [outcome, Option.toList_none, List.append_nil]
              · obtain ⟨before, body, outer, cut, place, read, outside, outerSame⟩ :=
                  ih outcome heldInside
                subst none
                refine ⟨before, body ++ [c], outer, ?_, sameBracket.trans place, ?_, outside, ?_⟩
                · rw [cut, List.append_assoc, List.cons_append]
                · rw [read, Option.toList_none, List.append_nil]
                · rw [same, outerSame]

/-- A fault in the middle of a text is that of its first character that cannot be read. -/
theorem scan_error {position : Nat} {scanner : Scanner} {text : List Char} {fault : Fault}
    (failed : scan position scanner text = .error fault) :
    ∃ before c rest elements middle, text = before ++ c :: rest ∧
      scan position scanner before = .ok (elements, middle) ∧
      middle.readChar (position + before.length) c = .error fault := by
  induction text using List.reverseRecOn with
  | nil => cases failed
  | append_singleton front c ih =>
      rw [scan_concat] at failed
      cases outcome : scan position scanner front with
      | error found =>
          rw [outcome] at failed
          cases failed
          obtain ⟨before, d, rest, elements, middle, cut, read, stuck⟩ := ih outcome
          refine ⟨before, d, rest ++ [c], elements, middle, ?_, read, stuck⟩
          rw [cut, List.append_assoc, List.cons_append]
      | ok result =>
          obtain ⟨elements, middle⟩ := result
          rw [outcome] at failed
          dsimp only at failed
          refine ⟨front, c, [], elements, middle, rfl, outcome, ?_⟩
          cases step : middle.readChar (position + front.length) c with
          | error found =>
              rw [step] at failed
              cases failed
              rfl
          | ok moved =>
              rw [step] at failed
              cases failed

end Scanner

end InputMask.Pattern

namespace InputMask.Mask

open Pattern

section Reached

variable {pattern : List Char} {elements : List Element} {scanner : Scanner}

theorem ofPattern_of_outside
    (reached : Scanner.scan 0 Scanner.start pattern = .ok (elements, scanner))
    (outside : scanner.mode = .plain ∨ scanner.mode = .afterLower) :
    Mask.ofPattern pattern = .ok ⟨elements, scanner.rightToLeft⟩ := by
  simp only [Mask.ofPattern, reached]
  rcases outside with plain | afterLower
  · simp only [Scanner.faultAtEnd?, plain]
  · simp only [Scanner.faultAtEnd?, afterLower]

/-- A pattern that ends in a set fails where the set opened, and was a pattern up to there. -/
theorem ofPattern_inSet {draft : SetDraft}
    (reached : Scanner.scan 0 Scanner.start pattern = .ok (elements, scanner))
    (inside : scanner.mode = .inSet draft) :
    Mask.ofPattern pattern = .error ⟨.unclosedSet, draft.openedAt⟩ ∧
      draft.openedAt < pattern.length ∧ pattern[draft.openedAt]? = some '[' ∧
      Mask.ofPattern (pattern.take draft.openedAt) = .ok ⟨elements, scanner.rightToLeft⟩ := by
  obtain ⟨before, body, outer, cut, place, read, outside, same⟩ := Scanner.scan_inSet reached inside
  have unclosed : Mask.ofPattern pattern = .error ⟨.unclosedSet, draft.openedAt⟩ := by
    simp only [Mask.ofPattern, reached, Scanner.faultAtEnd?, inside]
  have inPattern : draft.openedAt < pattern.length := by
    rw [place, cut, List.length_append, List.length_cons]
    omega
  have bracket : pattern[draft.openedAt]? = some '[' := by simp [place, cut]
  have front : Mask.ofPattern (pattern.take draft.openedAt) =
      .ok ⟨elements, scanner.rightToLeft⟩ := by
    have outer := ofPattern_of_outside read outside
    rw [place, cut, List.take_left, same]
    exact outer
  exact ⟨unclosed, inPattern, bracket, front⟩

/-- Whatever a set has come to, one more letter and a bracket complete it. -/
theorem ofPattern_completed {draft : SetDraft}
    (reached : Scanner.scan 0 Scanner.start pattern = .ok (elements, scanner))
    (inside : scanner.mode = .inSet draft) :
    ∃ slot, Mask.ofPattern (pattern ++ ['a', ']']) =
      .ok ⟨elements ++ [.charSet slot], scanner.rightToLeft⟩ := by
  obtain ⟨slot, closed⟩ :=
    SetDraft.readChar_bracket_after_add (pattern.length + 1) draft 'a'
  have completed : Scanner.scan 0 Scanner.start (pattern ++ ['a', ']']) =
      .ok (elements ++ [.charSet slot], { scanner with mode := .plain }) := by
    rw [Scanner.scan_append, reached]
    simp only [Nat.zero_add, Scanner.scan, Scanner.readChar, inside, SetDraft.readChar_letter,
      closed, Option.toList_none, Option.toList_some, List.nil_append, List.append_nil]
  have whole := ofPattern_of_outside completed (Or.inl rfl)
  exact ⟨slot, whole⟩

end Reached

theorem ofPattern_append_of_scan_error {pattern : List Char} {fault : Fault}
    (failed : Scanner.scan 0 Scanner.start pattern = .error fault) (suffix : List Char) :
    Mask.ofPattern (pattern ++ suffix) = .error fault := by
  simp only [Mask.ofPattern, Scanner.scan_append, failed]

/-- Every fault is at a character of the pattern, and the text in front of that character says
how it came about. A set that is not closed yet can be completed by typing on; the other two
faults stay whatever is typed. -/
theorem fault_located (pattern : List Char) (fault : Fault)
    (failed : Mask.ofPattern pattern = .error fault) :
    fault.position < pattern.length ∧
      (match fault.kind with
      | .unclosedSet =>
          pattern[fault.position]? = some '[' ∧
            ∃ mask, Mask.ofPattern (pattern.take fault.position) = .ok mask ∧
              ∃ slot, Mask.ofPattern (pattern ++ ['a', ']']) =
                .ok ⟨mask.elements ++ [.charSet slot], mask.rightToLeft⟩
      | .emptySet =>
          pattern[fault.position]? = some '[' ∧
            (∃ mask, Mask.ofPattern (pattern.take fault.position) = .ok mask) ∧
            ∀ suffix, Mask.ofPattern (pattern ++ suffix) = .error fault
      | .doubledDash =>
          pattern[fault.position]? = some '-' ∧
            (∃ opening < fault.position,
              Mask.ofPattern (pattern.take fault.position) = .error ⟨.unclosedSet, opening⟩ ∧
                pattern[opening]? = some '[' ∧
                ∃ mask, Mask.ofPattern (pattern.take opening) = .ok mask) ∧
            ∀ suffix, Mask.ofPattern (pattern ++ suffix) = .error fault) := by
  cases outcome : Scanner.scan 0 Scanner.start pattern with
  | ok result =>
      obtain ⟨elements, scanner⟩ := result
      cases mode : scanner.mode with
      | inSet draft =>
          obtain ⟨unclosed, inPattern, bracket, front⟩ := ofPattern_inSet outcome mode
          obtain ⟨slot, completed⟩ := ofPattern_completed outcome mode
          rw [unclosed] at failed
          cases failed
          exact ⟨inPattern, bracket, _, front, slot, completed⟩
      | plain =>
          rw [ofPattern_of_outside outcome (Or.inl mode)] at failed
          cases failed
      | afterLower =>
          rw [ofPattern_of_outside outcome (Or.inr mode)] at failed
          cases failed
      | escaped =>
          simp only [Mask.ofPattern, outcome, Scanner.faultAtEnd?, mode] at failed
          cases failed
  | error found =>
      have lasting := ofPattern_append_of_scan_error outcome
      have same : found = fault := by
        rw [← List.append_nil pattern, lasting] at failed
        exact Except.error.inj failed
      subst found
      obtain ⟨before, c, rest, elements, middle, cut, read, stuck⟩ := Scanner.scan_error outcome
      obtain ⟨draft, inside, stuckInSet⟩ := Scanner.readChar_error stuck
      obtain ⟨unclosed, inFront, bracket, front⟩ := ofPattern_inSet read inside
      rw [Nat.zero_add] at stuckInSet
      have inPattern : before.length < pattern.length := by
        rw [cut, List.length_append, List.length_cons]
        omega
      have bracketInPattern : pattern[draft.openedAt]? = some '[' := by
        rw [cut, List.getElem?_append_left inFront]
        exact bracket
      have frontInPattern : pattern.take draft.openedAt = before.take draft.openedAt := by
        rw [cut, List.take_append_of_le_length (Nat.le_of_lt inFront)]
      rcases SetDraft.readChar_error stuckInSet with ⟨_bracket, empty⟩ | ⟨dash, doubled⟩
      · subst fault
        refine ⟨Nat.lt_trans inFront inPattern, bracketInPattern, ?_, lasting⟩
        rw [frontInPattern]
        exact ⟨_, front⟩
      · subst fault c
        refine ⟨inPattern, ?_, ⟨draft.openedAt, inFront, ?_, bracketInPattern, ?_⟩, lasting⟩
        · simp [cut]
        · rw [cut, List.take_left]
          exact unclosed
        · rw [frontInPattern]
          exact ⟨_, front⟩

/-- The first dash of the second set is a member, so the fault is at the third one. -/
theorem fault_located_second_set :
    Mask.ofPattern ['9', '[', 'b', ']', '[', '-', '-', '-'] = .error ⟨.doubledDash, 7⟩ ∧
      ∀ suffix, Mask.ofPattern (['9', '[', 'b', ']', '[', '-', '-', '-'] ++ suffix) =
        .error ⟨.doubledDash, 7⟩ := by
  have failed : Mask.ofPattern ['9', '[', 'b', ']', '[', '-', '-', '-'] =
      .error ⟨.doubledDash, 7⟩ := rfl
  exact ⟨failed, (fault_located _ _ failed).2.2.2⟩

end InputMask.Mask
