/-
Two patterns joined by a pair of angles. The first one leaves behind a case region, perhaps an
angle that waits for its partner, and the edge. The pair of angles settles the region and the
angle, so nothing but the edge comes through to the second pattern, which is read as it is by
itself, only at later positions.
-/
import InputMask.Proofs.Spec.Escapes

namespace InputMask

namespace Pattern.Scanner

private theorem escapes_of_scan {position : Nat} {scanner last : Scanner} {text : List Char}
    {elements : List Element} (read : scan position scanner text = .ok (elements, last)) :
    last.escapes = Spec.escapedAfter scanner.escapes text := by
  induction text generalizing position scanner elements with
  | nil =>
      cases read
      rfl
  | cons c rest ih =>
      unfold scan at read
      cases moved : scanner.readChar position c with
      | error fault =>
          rw [moved] at read
          cases read
      | ok outcome =>
          obtain ⟨next, element?⟩ := outcome
          rw [moved] at read
          dsimp only at read
          cases further : scan (position + 1) next rest with
          | error fault =>
              rw [further] at read
              cases read
          | ok result =>
              rw [further] at read
              cases read
              have later := ih further
              rw [escapes_of_readChar moved] at later
              exact later

/-! ### Reading on from the right edge -/

def turned (rightToLeft : Bool) (scanner : Scanner) : Scanner :=
  { scanner with rightToLeft := rightToLeft || scanner.rightToLeft }

variable (rightToLeft : Bool)

private theorem readPlain_turned (position : Nat) (scanner : Scanner) (closingAngle : CaseShift)
    (c : Char) :
    (scanner.turned rightToLeft).readPlain position closingAngle c =
      (((scanner.readPlain position closingAngle c).1).turned rightToLeft,
        (scanner.readPlain position closingAngle c).2) := by
  unfold readPlain
  split
  · rfl
  · simp only [turned, Bool.or_true]
  · rfl
  · rfl
  · rfl
  · rfl

private theorem readChar_turned (position : Nat) (scanner : Scanner) (c : Char) :
    (scanner.turned rightToLeft).readChar position c =
      (scanner.readChar position c).map fun (next, element?) =>
        (next.turned rightToLeft, element?) := by
  obtain ⟨mode, shift, edge⟩ := scanner
  cases mode with
  | plain => exact congrArg Except.ok (readPlain_turned rightToLeft position _ .upper c)
  | afterLower => exact congrArg Except.ok (readPlain_turned rightToLeft position _ .unchanged c)
  | escaped => rfl
  | inSet draft =>
      simp only [readChar, turned]
      cases draft.readChar position c with
      | error fault => rfl
      | ok progress => cases progress <;> rfl

theorem faultAtEnd?_turned (scanner : Scanner) :
    (scanner.turned rightToLeft).faultAtEnd? = scanner.faultAtEnd? := by
  obtain ⟨mode, shift, edge⟩ := scanner
  cases mode <;> rfl

/-! ### Reading on at later positions -/

def after (n : Nat) (scanner : Scanner) : Scanner :=
  (scanner.moved (· + n)).turned rightToLeft

theorem readChar_after (n position : Nat) (scanner : Scanner) (c : Char) :
    (scanner.after rightToLeft n).readChar (position + n) c =
      ((scanner.readChar position c).map fun (next, element?) =>
        (next.after rightToLeft n, element?)).mapError (Fault.moved (· + n)) := by
  have step := readChar_moved (· + n) position scanner c
  rw [after, readChar_turned, step]
  cases scanner.readChar position c <;> rfl

theorem scan_after (n position : Nat) (scanner : Scanner) (text : List Char) :
    scan (position + n) (scanner.after rightToLeft n) text =
      ((scan position scanner text).map fun (elements, last) =>
        (elements, last.after rightToLeft n)).mapError (Fault.moved (· + n)) := by
  induction text generalizing position scanner with
  | nil => rfl
  | cons c rest ih =>
      simp only [scan, readChar_after]
      cases scanner.readChar position c with
      | error fault => rfl
      | ok outcome =>
          obtain ⟨next, element?⟩ := outcome
          have later := ih (position + 1) next
          rw [Nat.add_right_comm] at later
          simp only [Except.map, mapError_ok, later]
          cases scan (position + 1) next rest <;> rfl

theorem faultAtEnd?_after (n : Nat) (scanner : Scanner) :
    (scanner.after rightToLeft n).faultAtEnd? =
      scanner.faultAtEnd?.map (Fault.moved (· + n)) := by
  rw [after, faultAtEnd?_turned, faultAtEnd?_moved]

private theorem scan_angles (position n : Nat) {scanner : Scanner}
    (outside : scanner.mode = .plain ∨ scanner.mode = .afterLower) :
    scan position scanner ['<', '>'] = .ok ([], start.after scanner.rightToLeft n) := by
  obtain ⟨mode, shift, edge⟩ := scanner
  rcases outside with plain | afterLower
  · cases plain
    cases edge <;> rfl
  · cases afterLower
    cases edge <;> rfl

end Pattern.Scanner

namespace Mask

open Pattern

private theorem exists_scan_of_ofPattern {pattern : List Char} {mask : Mask}
    (denoted : ofPattern pattern = .ok mask) :
    ∃ scanner, Scanner.scan 0 Scanner.start pattern = .ok (mask.elements, scanner) ∧
      scanner.faultAtEnd? = none ∧ scanner.rightToLeft = mask.rightToLeft := by
  unfold ofPattern at denoted
  cases read : Scanner.scan 0 Scanner.start pattern with
  | error fault =>
      rw [read] at denoted
      cases denoted
  | ok outcome =>
      obtain ⟨elements, scanner⟩ := outcome
      rw [read] at denoted
      dsimp only at denoted
      cases ending : scanner.faultAtEnd? with
      | some fault =>
          rw [ending] at denoted
          cases denoted
      | none =>
          rw [ending] at denoted
          cases denoted
          exact ⟨scanner, rfl, ending, rfl⟩

/-- A pattern that escapes nothing at its end leaves the scanner outside every set and escape. -/
private theorem outside_of_complete {pattern : List Char} {elements : List Element}
    {scanner : Scanner}
    (read : Scanner.scan 0 Scanner.start pattern = .ok (elements, scanner))
    (noFault : scanner.faultAtEnd? = none)
    (complete : ¬Odd (Spec.finalBackslashes pattern)) :
    scanner.mode = .plain ∨ scanner.mode = .afterLower := by
  have escapes := Scanner.escapes_of_scan read
  cases mode : scanner.mode with
  | plain => exact Or.inl rfl
  | afterLower => exact Or.inr rfl
  | escaped =>
      simp only [Scanner.escapes, mode] at escapes
      exact absurd ((Spec.escapedAfter_iff_odd pattern).mp escapes.symm) complete
  | inSet draft =>
      simp only [Scanner.faultAtEnd?, mode] at noFault
      cases noFault

theorem ofPattern_joined {pattern : List Char} {mask : Mask}
    (denoted : ofPattern pattern = .ok mask)
    (complete : ¬Odd (Spec.finalBackslashes pattern)) (further : List Char) :
    ofPattern (pattern ++ ['<', '>'] ++ further) =
      ((ofPattern further).map fun later =>
        ⟨mask.elements ++ later.elements, mask.rightToLeft || later.rightToLeft⟩).mapError
          (Fault.moved (· + (pattern.length + 2))) := by
  obtain ⟨scanner, read, noFault, sameEdge⟩ := exists_scan_of_ofPattern denoted
  have outside := outside_of_complete read noFault complete
  have settled := Scanner.scan_angles pattern.length (pattern.length + 2) outside
  have front : Scanner.scan 0 Scanner.start (pattern ++ ['<', '>']) =
      .ok (mask.elements, Scanner.start.after mask.rightToLeft (pattern.length + 2)) := by
    simp only [Scanner.scan_append, read, Nat.zero_add, settled, sameEdge, List.append_nil]
  have continued := Scanner.scan_after mask.rightToLeft (pattern.length + 2) 0 Scanner.start further
  unfold ofPattern
  rw [Scanner.scan_append, front]
  simp only [List.length_append, List.length_cons, List.length_nil, continued]
  cases Scanner.scan 0 Scanner.start further with
  | error fault => rfl
  | ok outcome =>
      obtain ⟨elements, last⟩ := outcome
      simp only [Except.map, mapError_ok, Scanner.faultAtEnd?_after]
      cases last.faultAtEnd? <;> rfl

theorem patterns_joined (left right : List Char) (mask : Mask)
    (denoted : ofPattern left = .ok mask) (complete : ¬Odd (Spec.finalBackslashes left)) :
    (∀ later, ofPattern right = .ok later →
        ofPattern (left ++ ['<', '>'] ++ right) =
          .ok ⟨mask.elements ++ later.elements, mask.rightToLeft || later.rightToLeft⟩) ∧
      ∀ fault, ofPattern right = .error fault →
        ofPattern (left ++ ['<', '>'] ++ right) =
          .error ⟨fault.kind, left.length + 2 + fault.position⟩ := by
  have joined := ofPattern_joined denoted complete right
  constructor
  · intro later rightDenoted
    rw [joined, rightDenoted]
    rfl
  · intro fault failed
    rw [joined, failed, Nat.add_comm _ fault.position]
    rfl

/-- The first pattern ends in a literal backslash and an angle that opens a lower-case region. -/
theorem patterns_joined_open_region :
    let left := ['!', '>', 'L', '\\', '\\', '<']
    ofPattern (left ++ ['<', '>'] ++ ['L']) =
        .ok ⟨[.typed ⟨.letter, true, .upper⟩, .literal '\\', .typed ⟨.letter, true, .unchanged⟩],
          true⟩ ∧
      ofPattern (left ++ ['<', '>'] ++ ['L', '[', ']']) = .error ⟨.emptySet, 9⟩ := by
  intro left
  have denoted : ofPattern left =
      .ok ⟨[.typed ⟨.letter, true, .upper⟩, .literal '\\'], true⟩ := rfl
  have complete : ¬Odd (Spec.finalBackslashes left) := by decide
  exact ⟨(patterns_joined left ['L'] _ denoted complete).1 _ rfl,
    (patterns_joined left ['L', '[', ']'] _ denoted complete).2 ⟨.emptySet, 1⟩ rfl⟩

end Mask

end InputMask
