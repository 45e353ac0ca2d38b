/-
Patterns without their case markers. An angle outside every set that is not escaped opens or
closes a case region and does nothing else. So the pattern without these angles is read as the
pattern is, except that no slot lies in a region and that every position is lower by the angles in
front of it.

Which characters are escaped, and which stand in a set, is told from the text alone. That the
scanner agrees is shown for one character and then for a text.
-/
import InputMask.Proofs.Conformance.Interchange
import InputMask.Proofs.Pattern.Faults
import InputMask.Proofs.Spec.Semicolons

namespace InputMask

namespace Pattern

/-- Where a character stands, as the text in front of it says. -/
structure Place where
  inSet : Bool
  escaped : Bool
deriving DecidableEq

namespace Place

def start : Place := ⟨false, false⟩

/-- A set opens at a bracket outside and closes at the next closing one, escaped ones apart. -/
def after (place : Place) (c : Char) : Place :=
  { inSet := if place.escaped then place.inSet else if place.inSet then c != ']' else c == '['
    escaped := Spec.escapesNext place.escaped c }

def marks (place : Place) (c : Char) : Bool :=
  !place.inSet && !place.escaped && (c == '<' || c == '>')

def withoutMarkers (place : Place) : List Char → List Char
  | [] => []
  | c :: rest =>
      if place.marks c then withoutMarkers (place.after c) rest
      else c :: withoutMarkers (place.after c) rest

def markers (place : Place) : List Char → Nat
  | [] => 0
  | c :: rest => (if place.marks c then 1 else 0) + markers (place.after c) rest

private theorem markers_le_length (place : Place) (text : List Char) :
    place.markers text ≤ text.length := by
  induction text generalizing place with
  | nil => exact Nat.le_refl 0
  | cons c rest ih =>
      have further := ih (place.after c)
      rw [markers, List.length_cons]
      split <;> omega

private theorem start_marks_iff (c : Char) : start.marks c = true ↔ c = '<' ∨ c = '>' := by
  simp [start, marks]

private theorem start_marks_eq_false {c : Char} (unmarked : start.marks c = false) :
    ¬(c = '<' ∨ c = '>') := by
  rw [← start_marks_iff, unmarked]
  exact Bool.false_ne_true

end Place

def withoutMarkers (pattern : List Char) : List Char := Place.start.withoutMarkers pattern

/-- A position of a pattern is lower by the markers in front of it once they are deleted. -/
def positionWithoutMarkers (pattern : List Char) (position : Nat) : Nat :=
  position - Place.start.markers (pattern.take position)

/-! ### The scanner keeps the place -/

namespace SetProgress

def isReading : SetProgress → Bool
  | reading _ => true
  | closed _ => false

end SetProgress

private theorem SetDraft.isReading_of_readChar {position : Nat} {draft : SetDraft} {c : Char}
    {progress : SetProgress} (read : draft.readChar position c = .ok progress) :
    progress.isReading = (draft.escaped || c != ']') := by
  obtain ⟨openedAt, negated, optional, escaped, items⟩ := draft
  cases escaped with
  | true =>
      cases read
      rfl
  | false =>
      simp only [readChar, Bool.false_eq_true, if_false] at read
      split at read
      · cases read
        rfl
      · cases items <;> cases read <;> rfl
      · cases items <;> cases read <;> rfl
      · split at read <;> cases read <;> rfl
      · split at read <;> cases read <;> rfl
      · rename_i noBracket _ _ _
        cases read
        exact (bne_iff_ne.mpr noBracket).symm

namespace Scanner

def inSet (scanner : Scanner) : Bool :=
  match scanner.mode with
  | .inSet _ => true
  | .plain | .afterLower | .escaped => false

def place (scanner : Scanner) : Place := ⟨scanner.inSet, scanner.escapes⟩

private theorem inSet_readPlain (position : Nat) (scanner : Scanner) (closingAngle : CaseShift)
    (c : Char) : (scanner.readPlain position closingAngle c).1.inSet = (c == '[') := by
  unfold readPlain
  split
  · rfl
  · rfl
  · rfl
  · rfl
  · rfl
  · rename_i noBracket
    exact (beq_eq_false_iff_ne.mpr noBracket).symm

private theorem place_of_readChar {position : Nat} {scanner next : Scanner} {c : Char}
    {element? : Option Element} (moved : scanner.readChar position c = .ok (next, element?)) :
    next.place = scanner.place.after c := by
  have sameEscape := escapes_of_readChar moved
  have sameSet : next.inSet = (scanner.place.after c).inSet := by
    obtain ⟨mode, shift, rightToLeft⟩ := scanner
    cases mode with
    | plain =>
        have plain := inSet_readPlain position ⟨.plain, shift, rightToLeft⟩ .upper c
        rw [Except.ok.inj moved] at plain
        exact plain
    | afterLower =>
        have plain := inSet_readPlain position ⟨.afterLower, shift, rightToLeft⟩ .unchanged c
        rw [Except.ok.inj moved] at plain
        exact plain
    | escaped =>
        cases moved
        rfl
    | inSet draft =>
        simp only [readChar] at moved
        cases progress : draft.readChar position c with
        | error fault =>
            rw [progress] at moved
            cases moved
        | ok outcome =>
            have reading := SetDraft.isReading_of_readChar progress
            have inside : (Scanner.place ⟨.inSet draft, shift, rightToLeft⟩ |>.after c).inSet =
                (draft.escaped || c != ']') := by
              simp only [place, inSet, escapes, Place.after]
              cases draft.escaped <;> rfl
            rw [inside, ← reading]
            rw [progress] at moved
            cases outcome <;> cases moved <;> rfl
  rw [place, sameSet, sameEscape]
  rfl

/-! ### The scanner without case regions -/

end Scanner

def Mode.uncased : Mode → Mode
  | plain | afterLower => plain
  | escaped => escaped
  | inSet draft => inSet draft

def Scanner.uncased (scanner : Scanner) : Scanner :=
  { scanner with mode := scanner.mode.uncased, shift := .unchanged }

private theorem elementOf_recased (shift : CaseShift) (c : Char) :
    (elementOf shift c).recased .unchanged = elementOf .unchanged c := by
  unfold elementOf
  split
  · rfl
  · rfl
  · cases slotSign? c with
    | none => rfl
    | some sign => simp [Element.recased]

namespace Scanner

theorem readPlain_uncased (position : Nat) (scanner : Scanner) (closingAngle other : CaseShift)
    {c : Char} (noAngle : ¬(c = '<' ∨ c = '>')) :
    scanner.uncased.readPlain position other c =
      (((scanner.readPlain position closingAngle c).1).uncased,
        (scanner.readPlain position closingAngle c).2.map (Element.recased .unchanged)) := by
  unfold readPlain
  split
  · rfl
  · rfl
  · exact absurd (Or.inl rfl) noAngle
  · exact absurd (Or.inr rfl) noAngle
  · rfl
  · exact Prod.ext rfl (congrArg some (elementOf_recased scanner.shift c).symm)

theorem readChar_uncased (position : Nat) {scanner : Scanner} {c : Char}
    (unmarked : scanner.place.marks c = false) :
    scanner.uncased.readChar position c =
      (scanner.readChar position c).map fun (next, element?) =>
        (next.uncased, element?.map (Element.recased .unchanged)) := by
  obtain ⟨mode, shift, rightToLeft⟩ := scanner
  cases mode with
  | plain =>
      have noAngle := Place.start_marks_eq_false unmarked
      exact congrArg Except.ok (readPlain_uncased position _ .upper .upper noAngle)
  | afterLower =>
      have noAngle := Place.start_marks_eq_false unmarked
      exact congrArg Except.ok (readPlain_uncased position _ .unchanged .upper noAngle)
  | escaped => rfl
  | inSet draft =>
      simp only [readChar, uncased, Mode.uncased]
      cases draft.readChar position c with
      | error fault => rfl
      | ok progress => cases progress <;> rfl

private theorem readChar_marker (position : Nat) {scanner : Scanner} {c : Char}
    (marked : scanner.place.marks c = true) :
    ∃ next, scanner.readChar position c = .ok (next, none) ∧ next.uncased = scanner.uncased := by
  obtain ⟨mode, shift, rightToLeft⟩ := scanner
  cases mode with
  | plain =>
      rcases (Place.start_marks_iff c).mp marked with rfl | rfl
      · exact ⟨_, rfl, rfl⟩
      · exact ⟨_, rfl, rfl⟩
  | afterLower =>
      rcases (Place.start_marks_iff c).mp marked with rfl | rfl
      · exact ⟨_, rfl, rfl⟩
      · exact ⟨_, rfl, rfl⟩
  | escaped => cases marked
  | inSet draft => cases marked

/-- The scan of the text without its markers is that of the text itself, with the slots out of
every region and each position renamed to where its character has gone. -/
theorem scan_withoutMarkers (f : Nat → Nat) (position position' : Nat) (scanner : Scanner)
    (text : List Char)
    (places : ∀ i, f (position + i) = position' + (i - scanner.place.markers (text.take i))) :
    scan position' (scanner.uncased.moved f) (scanner.place.withoutMarkers text) =
      ((scan position scanner text).map fun (elements, last) =>
        (elements.map (Element.recased .unchanged), last.uncased.moved f)).mapError
          (Fault.moved f) := by
  induction text generalizing position position' scanner with
  | nil => rfl
  | cons c rest ih =>
      have here : f position = position' := by
        have first := places 0
        rwa [Nat.add_zero, Nat.zero_sub, Nat.add_zero] at first
      cases marked : scanner.place.marks c with
      | true =>
          obtain ⟨next, step, same⟩ := readChar_marker position marked
          have later := ih (position + 1) position' next (by
            intro i
            have place := places (i + 1)
            rw [List.take_succ_cons, Place.markers, if_pos marked] at place
            rw [place_of_readChar step, Nat.add_assoc, Nat.add_comm 1 i, place]
            omega)
          rw [place_of_readChar step, same] at later
          rw [Place.withoutMarkers, if_pos marked, later]
          simp only [scan, step]
          cases scan (position + 1) next rest <;> rfl
      | false =>
          have moved := readChar_moved f position scanner.uncased c
          rw [readChar_uncased position marked, here] at moved
          rw [Place.withoutMarkers, marked, if_neg Bool.false_ne_true]
          simp only [scan, moved]
          cases step : scanner.readChar position c with
          | error fault => rfl
          | ok outcome =>
              obtain ⟨next, element?⟩ := outcome
              have later := ih (position + 1) (position' + 1) next (by
                intro i
                have place := places (i + 1)
                have bound := Place.markers_le_length (scanner.place.after c) (rest.take i)
                rw [List.length_take] at bound
                rw [List.take_succ_cons, Place.markers, marked, if_neg Bool.false_ne_true] at place
                rw [place_of_readChar step, Nat.add_assoc, Nat.add_comm 1 i, place]
                omega)
              rw [place_of_readChar step] at later
              simp only [Except.map, mapError_ok, later]
              cases scan (position + 1) next rest with
              | error fault => rfl
              | ok outcome => cases element? <;> rfl

theorem faultAtEnd?_uncased (scanner : Scanner) :
    scanner.uncased.faultAtEnd? = scanner.faultAtEnd? := by
  obtain ⟨mode, shift, rightToLeft⟩ := scanner
  cases mode <;> rfl

private theorem kind_of_faultAtEnd? (scanner : Scanner) {fault : Fault}
    (ending : scanner.faultAtEnd? = some fault) : fault.kind = .unclosedSet := by
  obtain ⟨mode, shift, rightToLeft⟩ := scanner
  cases mode with
  | inSet draft =>
      cases ending
      rfl
  | plain => cases ending
  | afterLower => cases ending
  | escaped => cases ending

end Scanner

end Pattern

namespace Mask

open Pattern

def uncased (mask : Mask) : Mask :=
  { mask with elements := mask.elements.map (Element.recased .unchanged) }

theorem sameResults_uncased (mask : Mask) (separators : Separators) :
    SameResults separators separators mask mask.uncased := by
  refine SameResults.of_alike rfl ?_
  rw [uncased, List.forall₂_map_right_iff, List.forall₂_same]
  exact fun element _member => element.alike_recased separators .unchanged

section Pattern

variable (pattern : List Char)

private theorem scan_start_withoutMarkers :
    Scanner.scan 0 Scanner.start (withoutMarkers pattern) =
      ((Scanner.scan 0 Scanner.start pattern).map fun (elements, last) =>
        (elements.map (Element.recased .unchanged),
          last.uncased.moved (positionWithoutMarkers pattern))).mapError
        (Fault.moved (positionWithoutMarkers pattern)) := by
  refine Scanner.scan_withoutMarkers (positionWithoutMarkers pattern) 0 0 Scanner.start pattern ?_
  intro i
  rw [Nat.zero_add, Nat.zero_add]
  rfl

theorem ofPattern_withoutMarkers :
    ofPattern (withoutMarkers pattern) =
      ((ofPattern pattern).map uncased).mapError
        (Fault.moved (positionWithoutMarkers pattern)) := by
  unfold ofPattern
  rw [scan_start_withoutMarkers]
  cases Scanner.scan 0 Scanner.start pattern with
  | error fault => rfl
  | ok outcome =>
      obtain ⟨elements, last⟩ := outcome
      simp only [Except.map, mapError_ok, Scanner.faultAtEnd?_moved, Scanner.faultAtEnd?_uncased]
      cases last.faultAtEnd? <;> rfl

/-- What is done with the mask of the pattern is done with that of the pattern without its
markers, if case regions do not matter to it. -/
private theorem map_withoutMarkers {Result : Type} (use : Mask → Result)
    (same : ∀ mask, use mask = use mask.uncased) :
    (ofPattern (withoutMarkers pattern)).map use =
      ((ofPattern pattern).map use).mapError
        (Fault.moved (positionWithoutMarkers pattern)) := by
  rw [ofPattern_withoutMarkers]
  cases ofPattern pattern with
  | error fault => rfl
  | ok mask => exact congrArg Except.ok (same mask).symm

end Pattern

/-- Only a set that is not closed is found out at the end. -/
private theorem scan_eq_error_of_ofPattern {pattern : List Char} {fault : Fault}
    (failed : ofPattern pattern = .error fault) (closed : fault.kind ≠ .unclosedSet) :
    Scanner.scan 0 Scanner.start pattern = .error fault := by
  unfold ofPattern at failed
  cases outcome : Scanner.scan 0 Scanner.start pattern with
  | error found =>
      rw [outcome] at failed
      cases failed
      rfl
  | ok result =>
      obtain ⟨elements, last⟩ := result
      rw [outcome] at failed
      dsimp only at failed
      cases ending : last.faultAtEnd? with
      | some found =>
          rw [ending] at failed
          cases failed
          exact absurd (last.kind_of_faultAtEnd? ending) closed
      | none =>
          rw [ending] at failed
          cases failed

/-- Case markers influence nothing but the regions of the slots. A fault in a set is found before
the rest is read, whatever the rest is and whichever of its characters are deleted. -/
theorem case_markers_only_shift (pattern : List Char) :
    ofPattern (withoutMarkers pattern) =
        ((ofPattern pattern).map uncased).mapError
          (Fault.moved (positionWithoutMarkers pattern)) ∧
      (∀ fault, ofPattern pattern = .error fault → fault.kind ≠ .unclosedSet →
        ∀ unread, ofPattern (withoutMarkers pattern ++ unread) =
          .error (fault.moved (positionWithoutMarkers pattern))) ∧
      ∀ flag space separators value,
        Spec.apply ⟨withoutMarkers pattern, flag, space⟩ separators value =
            (Spec.apply ⟨pattern, flag, space⟩ separators value).mapError
              (Fault.moved (positionWithoutMarkers pattern)) ∧
          Spec.remove ⟨withoutMarkers pattern, flag, space⟩ separators value =
            (Spec.remove ⟨pattern, flag, space⟩ separators value).mapError
              (Fault.moved (positionWithoutMarkers pattern)) ∧
          Spec.violation? ⟨withoutMarkers pattern, flag, space⟩ separators value =
            (Spec.violation? ⟨pattern, flag, space⟩ separators value).mapError
              (Fault.moved (positionWithoutMarkers pattern)) := by
  refine ⟨ofPattern_withoutMarkers pattern, ?_, ?_⟩
  · intro fault failed closed unread
    have scanned := scan_start_withoutMarkers pattern
    rw [scan_eq_error_of_ofPattern failed closed] at scanned
    exact ofPattern_append_of_scan_error scanned unread
  · intro flag space separators value
    refine ⟨?_, ?_, ?_⟩
    · exact map_withoutMarkers pattern _ fun mask =>
        (mask.sameResults_uncased separators).applied flag space value
    · exact map_withoutMarkers pattern _ fun mask =>
        (mask.sameResults_uncased separators).removed flag value
    · exact map_withoutMarkers pattern _ fun mask =>
        (mask.sameResults_uncased separators).checked space value

/-- The angles in the set are the ends of a range, and the escaped one is a literal. -/
theorem case_markers_only_shift_doubled_dash :
    let pattern := ['<', 'L', '>', '!', '\\', '>', '[', '<', '-', '>', '-', '-']
    ofPattern pattern = .error ⟨.doubledDash, 11⟩ ∧
      FaultKind.doubledDash ≠ .unclosedSet ∧
      ofPattern (['L', '!', '\\', '>', '[', '<', '-', '>', '-', '-'] ++ ['<', ']', '>']) =
        .error ⟨.doubledDash, 9⟩ := by
  intro pattern
  have failed : ofPattern pattern = .error ⟨.doubledDash, 11⟩ := rfl
  have closed : FaultKind.doubledDash ≠ .unclosedSet := by decide
  exact ⟨failed, closed, (case_markers_only_shift pattern).2.1 _ failed closed ['<', ']', '>']⟩

end Mask

end InputMask
