/-
Patterns with semicolons in the text of a specification. The text is cut at the first semicolon
that is not escaped, so a pattern is written with a backslash in front of each such semicolon.
The scanner reads the same with these backslashes as without them, inside sets and outside,
because it agrees with the cut on which characters are escaped.
-/
import InputMask.Proofs.Pattern.Relocation
import InputMask.Spec.Values

namespace InputMask

namespace Spec

/-- A backslash escapes the character after it unless it is escaped itself. -/
def escapesNext (escaped : Bool) (c : Char) : Bool := c == '\\' && !escaped

def escapedAfter (escaped : Bool) (text : List Char) : Bool := text.foldl escapesNext escaped

def escapeSemicolon (escaped : Bool) (c : Char) : List Char :=
  if c = ';' ∧ escaped = false then ['\\', c] else [c]

/-- Put a backslash in front of each semicolon that is not escaped. The flag says whether the
first character is. -/
def escapeSemicolons (escaped : Bool) : List Char → List Char
  | [] => []
  | c :: rest => escapeSemicolon escaped c ++ escapeSemicolons (escapesNext escaped c) rest

def bareSemicolons (escaped : Bool) : List Char → Nat
  | [] => 0
  | c :: rest =>
      (if c = ';' ∧ escaped = false then 1 else 0) + bareSemicolons (escapesNext escaped c) rest

private theorem escapeSemicolon_length (escaped : Bool) (c : Char) :
    (escapeSemicolon escaped c).length = 1 + if c = ';' ∧ escaped = false then 1 else 0 := by
  unfold escapeSemicolon
  split <;> rfl

def escaped (spec : Spec) : Spec :=
  { spec with pattern := escapeSemicolons false spec.pattern }

end Spec

/-! ### The scanner and the added backslashes -/

namespace Pattern

private theorem SetDraft.escaped_of_readChar {position : Nat} {draft further : SetDraft} {c : Char}
    (read : draft.readChar position c = .ok (.reading further)) :
    further.escaped = Spec.escapesNext draft.escaped c := by
  have outcome := readChar_outcome position draft c
  rw [read] at outcome
  cases outcome with
  | reading _further _sameBracket escapes => exact escapes

namespace Scanner

def escapes (scanner : Scanner) : Bool :=
  match scanner.mode with
  | .plain | .afterLower => false
  | .escaped => true
  | .inSet draft => draft.escaped

private theorem escapes_moved (f : Nat → Nat) (scanner : Scanner) :
    (scanner.moved f).escapes = scanner.escapes := by
  obtain ⟨mode, shift, rightToLeft⟩ := scanner
  cases mode <;> rfl

private theorem escapes_readPlain (position : Nat) (scanner : Scanner) (closingAngle : CaseShift)
    (c : Char) :
    (scanner.readPlain position closingAngle c).1.escapes = Spec.escapesNext false c := by
  unfold readPlain
  split
  · rfl
  · rfl
  · rfl
  · rfl
  · rfl
  · rename_i backslash _ _ _ _
    exact (Bool.and_eq_false_iff.mpr (Or.inl (beq_eq_false_iff_ne.mpr backslash))).symm

theorem escapes_of_readChar {position : Nat} {scanner next : Scanner} {c : Char}
    {element? : Option Element} (moved : scanner.readChar position c = .ok (next, element?)) :
    next.escapes = Spec.escapesNext scanner.escapes c := by
  obtain ⟨mode, shift, rightToLeft⟩ := scanner
  cases mode with
  | plain =>
      have plain := escapes_readPlain position ⟨.plain, shift, rightToLeft⟩ .upper c
      rw [Except.ok.inj moved] at plain
      exact plain
  | afterLower =>
      have plain := escapes_readPlain position ⟨.afterLower, shift, rightToLeft⟩ .unchanged c
      rw [Except.ok.inj moved] at plain
      exact plain
  | escaped =>
      cases moved
      exact (Bool.and_false _).symm
  | inSet draft =>
      simp only [readChar] at moved
      cases progress : draft.readChar position c with
      | error fault =>
          rw [progress] at moved
          cases moved
      | ok outcome =>
          rw [progress] at moved
          cases outcome with
          | reading further =>
              cases moved
              exact SetDraft.escaped_of_readChar progress
          | closed slot =>
              cases moved
              have bracket := SetDraft.eq_bracket_of_closed progress
              subst bracket
              rfl

/-- An escaped semicolon is read as the bare one, whatever the scanner is in the middle of: it
is a literal or an item, it may end a range, and it ends what a lower-case mark began. -/
private theorem scan_semicolon (position position' : Nat) {scanner : Scanner}
    (fresh : scanner.escapes = false) :
    scan position' scanner ['\\', ';'] = scan position scanner [';'] := by
  obtain ⟨mode, shift, rightToLeft⟩ := scanner
  cases mode with
  | plain => rfl
  | afterLower => rfl
  | escaped => cases fresh
  | inSet draft =>
      obtain ⟨openedAt, negated, optional, escaped, items⟩ := draft
      cases fresh
      rfl

private theorem scan_singleton (position : Nat) (scanner : Scanner) (c : Char) :
    scan position scanner [c] =
      (scanner.readChar position c).map fun (next, element?) => (element?.toList, next) := by
  simp only [scan]
  cases scanner.readChar position c with
  | error fault => rfl
  | ok outcome => simp only [List.append_nil, Except.map]

private theorem scan_escapeSemicolon (f : Nat → Nat) (position : Nat) (scanner : Scanner)
    (c : Char) :
    scan (f position) (scanner.moved f) (Spec.escapeSemicolon scanner.escapes c) =
      ((scan position scanner [c]).map fun (elements, last) =>
        (elements, last.moved f)).mapError (Fault.moved f) := by
  have single : scan (f position) (scanner.moved f) [c] =
      ((scan position scanner [c]).map fun (elements, last) =>
        (elements, last.moved f)).mapError (Fault.moved f) := by
    rw [scan_singleton, scan_singleton, readChar_moved]
    cases scanner.readChar position c <;> rfl
  unfold Spec.escapeSemicolon
  split
  · rename_i bare
    rw [← single, bare.1]
    exact scan_semicolon (f position) (f position) ((escapes_moved f scanner).trans bare.2)
  · exact single

/-- The scan of the escaped text is that of the text itself, with each position renamed to where
its character has gone. -/
theorem scan_escapeSemicolons (f : Nat → Nat) (position position' : Nat) (scanner : Scanner)
    (text : List Char)
    (places : ∀ i, f (position + i) =
      position' + (i + Spec.bareSemicolons scanner.escapes (text.take i))) :
    scan position' (scanner.moved f) (Spec.escapeSemicolons scanner.escapes text) =
      ((scan position scanner text).map fun (elements, last) =>
        (elements, last.moved f)).mapError (Fault.moved f) := by
  induction text generalizing position position' scanner with
  | nil => rfl
  | cons c rest ih =>
      have here : f position = position' := places 0
      have first := scan_escapeSemicolon f position scanner c
      rw [here] at first
      have whole := scan_append position scanner [c] rest
      rw [List.singleton_append] at whole
      rw [Spec.escapeSemicolons, scan_append, first, whole, scan_singleton]
      cases step : scanner.readChar position c with
      | error fault => rfl
      | ok outcome =>
          obtain ⟨next, element?⟩ := outcome
          have later := ih (position + 1)
            (position' + (Spec.escapeSemicolon scanner.escapes c).length) next (by
              intro i
              have place := places (i + 1)
              rw [List.take_succ_cons, Spec.bareSemicolons] at place
              rw [escapes_of_readChar step, Spec.escapeSemicolon_length, Nat.add_assoc,
                Nat.add_comm 1 i, place]
              omega)
          rw [escapes_of_readChar step] at later
          simp only [Except.map, mapError_ok, later, List.length_singleton]
          cases scan (position + 1) next rest <;> rfl

end Scanner

end Pattern

/-- A pattern and the pattern with its semicolons escaped denote the same mask. -/
theorem Mask.ofPattern_escapeSemicolons (pattern : List Char) :
    Mask.ofPattern (Spec.escapeSemicolons false pattern) =
      (Mask.ofPattern pattern).mapError (Fault.moved fun position =>
        position + Spec.bareSemicolons false (pattern.take position)) := by
  have scanned := Pattern.Scanner.scan_escapeSemicolons
    (fun position => position + Spec.bareSemicolons false (pattern.take position)) 0 0
    Pattern.Scanner.start pattern (by
      intro i
      rw [Nat.zero_add, Nat.zero_add]
      rfl)
  unfold Mask.ofPattern
  change Pattern.Scanner.scan 0 Pattern.Scanner.start (Spec.escapeSemicolons false pattern) = _
    at scanned
  rw [scanned]
  cases Pattern.Scanner.scan 0 Pattern.Scanner.start pattern with
  | error fault => rfl
  | ok outcome =>
      obtain ⟨elements, last⟩ := outcome
      simp only [Except.map, mapError_ok, Pattern.Scanner.faultAtEnd?_moved]
      cases last.faultAtEnd? <;> rfl

/-! ### The cut -/

namespace Spec

theorem cutPattern_escapeSemicolons (escaped : Bool) (text later : List Char)
    (complete : escapedAfter escaped text = false) :
    cutPattern escaped (escapeSemicolons escaped text ++ ';' :: later) =
      (escapeSemicolons escaped text, some later) := by
  induction text generalizing escaped with
  | nil =>
      change escaped = false at complete
      subst complete
      rfl
  | cons c rest ih =>
      have further := ih (escapesNext escaped c) complete
      rw [escapeSemicolons, List.append_assoc]
      unfold escapeSemicolon
      by_cases bare : c = ';' ∧ escaped = false
      · obtain ⟨semicolon, fresh⟩ := bare
        subst semicolon fresh
        change cutPattern false (escapeSemicolons false rest ++ ';' :: later) = _ at further
        simp [cutPattern, further, escapesNext]
      · rw [if_neg bare, List.singleton_append, cutPattern, if_neg bare]
        change cutPattern (c == '\\' && !escaped) _ = _ at further
        rw [further]
        rfl

theorem ofText_render_escaped (defaultSpace : Char) (spec : Spec)
    (complete : escapedAfter false spec.pattern = false)
    (noSemicolon : spec.spacePlaceholder ≠ ';') :
    ofText defaultSpace spec.escaped.render = spec.escaped := by
  obtain ⟨pattern, flag, space⟩ := spec
  have cut := cutPattern_escapeSemicolons false pattern [flagSign flag, ';', space] complete
  have single : readSpace defaultSpace [space] = space := if_neg noSemicolon
  unfold ofText
  rw [show (escaped ⟨pattern, flag, space⟩).render =
    escapeSemicolons false pattern ++ ';' :: [flagSign flag, ';', space] from rfl, cut]
  cases flag with
  | false => exact congrArg (Spec.mk (escapeSemicolons false pattern) false) single
  | true => exact congrArg (Spec.mk (escapeSemicolons false pattern) true) single

/-- What is done with the mask of an escaped specification is done with that of the
specification itself. -/
private theorem mapError_escaped {Result : Type} (spec : Spec) (use : Mask → Result) :
    (spec.escaped.mask.map use).mapError Fault.kind = (spec.mask.map use).mapError Fault.kind := by
  have same : spec.escaped.mask = _ := Mask.ofPattern_escapeSemicolons spec.pattern
  rw [same]
  change (((Mask.ofPattern spec.pattern).mapError _).map use).mapError _ =
    ((Mask.ofPattern spec.pattern).map use).mapError _
  cases Mask.ofPattern spec.pattern <;> rfl

/-- Every specification can be written as one text. Escaping the semicolons of a pattern leaves
its mask as it is and shifts its fault by the backslashes in front of it; and the text cut at
its semicolons gives the escaped pattern back with the flag and the space placeholder, so that
the text does to every value what the specification does. -/
theorem written_with_escapes :
    (∀ pattern, Mask.ofPattern (escapeSemicolons false pattern) =
        (Mask.ofPattern pattern).mapError fun fault =>
          ⟨fault.kind, fault.position + bareSemicolons false (pattern.take fault.position)⟩) ∧
      ∀ (spec : Spec) (defaultSpace : Char), escapedAfter false spec.pattern = false →
        spec.spacePlaceholder ≠ ';' →
          let text := escapeSemicolons false spec.pattern ++
            [';', if spec.saveFormatted then '1' else '0', ';', spec.spacePlaceholder]
          ofText defaultSpace text =
              ⟨escapeSemicolons false spec.pattern, spec.saveFormatted, spec.spacePlaceholder⟩ ∧
            ∀ separators value,
              ((ofText defaultSpace text).apply separators value).mapError Fault.kind =
                  (spec.apply separators value).mapError Fault.kind ∧
                ((ofText defaultSpace text).remove separators value).mapError Fault.kind =
                  (spec.remove separators value).mapError Fault.kind ∧
                ((ofText defaultSpace text).violation? separators value).mapError Fault.kind =
                  (spec.violation? separators value).mapError Fault.kind := by
  constructor
  · exact Mask.ofPattern_escapeSemicolons
  · intro spec defaultSpace complete noSemicolon text
    have read : ofText defaultSpace text = spec.escaped :=
      ofText_render_escaped defaultSpace spec complete noSemicolon
    refine ⟨read, ?_⟩
    intro separators value
    rw [read]
    exact ⟨mapError_escaped spec _, mapError_escaped spec _, mapError_escaped spec _⟩

/-- A semicolon that ends a range and one between the angles, with a fault after both. -/
theorem written_with_escapes_in_range :
    Mask.ofPattern ['[', '0', '-', '\\', ';', ']', '<', '\\', ';', '>', '[', ']'] =
        .error ⟨.emptySet, 10⟩ ∧
      Mask.ofPattern ['[', '0', '-', ';', ']', '<', ';', '>', '[', ']'] =
        .error ⟨.emptySet, 8⟩ ∧
      escapedAfter false ['9', '\\', ';', ';'] = false ∧ '*' ≠ ';' ∧
      ofText '_' ['9', '\\', ';', '\\', ';', ';', '0', ';', '*'] =
        ⟨['9', '\\', ';', '\\', ';'], false, '*'⟩ :=
  ⟨(written_with_escapes.1 ['[', '0', '-', ';', ']', '<', ';', '>', '[', ']']), rfl, rfl, by decide,
    (written_with_escapes.2 ⟨['9', '\\', ';', ';'], false, '*'⟩ '_' rfl (by decide)).1⟩

end Spec

end InputMask
