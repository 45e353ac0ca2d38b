/-
The masks that patterns denote. Behind whole tokens the scanner is determined by the tokens
alone, and each further token moves it to where the longer list says. So a pattern denotes the
mask that its tokens spell, provided every set among them describes a slot; and if one does not
then the pattern has a fault.
-/
import Mathlib.Algebra.GroupWithZero.Nat
import Mathlib.Data.List.Forall2
import InputMask.Proofs.Pattern.SetBody

namespace InputMask.Pattern

/-! ### The scanner behind whole tokens -/

namespace Token

private theorem regionAfter_lower (before : List Token) :
    regionAfter (before ++ [single '<']) = .lower := by
  rw [regionAfter, List.reverse_append]
  rfl

private theorem regionAfter_upper (before : List Token) :
    regionAfter (before ++ [single '>']) =
      if before.getLast? = some (single '<') then .unchanged else .upper := by
  rw [regionAfter, List.reverse_append, ← List.head?_reverse]
  cases before.reverse with
  | nil => rfl
  | cons last others =>
      by_cases opening : last = single '<'
      · subst last
        rfl
      · rw [List.head?_cons, if_neg (fun same => opening (Option.some.inj same))]
        have stops : List.dropWhile (fun token => !isAngle token)
            ([single '>'].reverse ++ last :: others) = single '>' :: last :: others := rfl
        rw [stops]
        split <;> simp_all

private theorem regionAfter_other (before : List Token) {token : Token}
    (plain : token.isAngle = false) :
    regionAfter (before ++ [token]) = regionAfter before := by
  rw [regionAfter, regionAfter, List.reverse_append, List.reverse_singleton,
    List.singleton_append, List.dropWhile_cons_of_pos]
  rw [plain]
  rfl

def scannerAfter (before : List Token) : Scanner :=
  { mode := if before.getLast? = some (single '<') then .afterLower else .plain
    shift := regionAfter before
    rightToLeft := decide (single '!' ∈ before) }

private theorem scannerAfter_concat (before : List Token) (token : Token) :
    scannerAfter (before ++ [token]) =
      { mode := if token = single '<' then .afterLower else .plain
        shift := regionAfter (before ++ [token])
        rightToLeft := decide (single '!' ∈ before) || decide (token = single '!') } := by
  simp [scannerAfter, eq_comm]

/-- A token that is no marker leaves the scanner as it was, outside every set. -/
private theorem scannerAfter_concat_of_not_marker (before : List Token) {token : Token}
    (noMarker : token.isMarker = false) :
    scannerAfter (before ++ [token]) = { scannerAfter before with mode := .plain } := by
  obtain ⟨noExclamation, noAngle⟩ := Bool.or_eq_false_iff.mp noMarker
  have noLower := (Bool.or_eq_false_iff.mp noAngle).1
  rw [scannerAfter_concat, regionAfter_other before noAngle,
    if_neg (beq_eq_false_iff_ne.mp noLower),
    decide_eq_false (beq_eq_false_iff_ne.mp noExclamation), Bool.or_false]
  rfl

private theorem scannerAfter_outside (before : List Token) :
    (scannerAfter before).mode = .plain ∨ (scannerAfter before).mode = .afterLower := by
  unfold scannerAfter
  split
  · exact Or.inr rfl
  · exact Or.inl rfl

private theorem readChar_scannerAfter (before : List Token) (position : Nat) (c : Char) :
    (scannerAfter before).readChar position c =
      .ok ((scannerAfter before).readPlain position
        (if before.getLast? = some (single '<') then .unchanged else .upper) c) := by
  by_cases opening : before.getLast? = some (single '<')
  · simp only [Scanner.readChar, scannerAfter, if_pos opening]
  · simp only [Scanner.readChar, scannerAfter, if_neg opening]

theorem elementOf_denoted (region : CaseShift) (c : Char) :
    Denotes region (single c) (elementOf region c) := by
  unfold elementOf
  split
  · exact Denotes.dateSeparator
  · exact Denotes.timeSeparator
  · rename_i noDate noTime
    cases sign : slotSign? c with
    | none =>
        refine Denotes.literal c noDate noTime ?_
        intro kind required written
        rw [(slotSign?_eq_some_iff c kind required).mpr written] at sign
        cases sign
    | some outcome =>
        obtain ⟨kind, required⟩ := outcome
        dsimp only
        rw [← kind.shiftIn_eq region]
        exact Denotes.typed kind required c ((slotSign?_eq_some_iff c kind required).mp sign)

/-! ### One more token -/

section OneMore

variable (before : List Token) (position : Nat)

private theorem scan_marker {c : Char} (marker : (single c).isMarker = true) :
    Scanner.scan position (scannerAfter before) [c] =
      .ok ([], scannerAfter (before ++ [single c])) := by
  simp only [Scanner.scan, readChar_scannerAfter, scannerAfter_concat]
  simp only [isMarker, isAngle, Bool.or_eq_true, beq_iff_eq, single.injEq] at marker
  rcases marker with exclamation | lower | upper
  · subst c
    rw [regionAfter_other before rfl]
    simp [Scanner.readPlain, scannerAfter]
  · subst c
    rw [regionAfter_lower]
    simp [Scanner.readPlain, scannerAfter]
  · subst c
    rw [regionAfter_upper]
    simp [Scanner.readPlain, scannerAfter]

private theorem scan_single {c : Char} (noMarker : (single c).isMarker = false)
    (noBackslash : c ≠ '\\')
    (noBracket : c ≠ '[') :
    Scanner.scan position (scannerAfter before) [c] =
      .ok ([elementOf (regionAfter before) c], scannerAfter (before ++ [single c])) := by
  rw [scannerAfter_concat_of_not_marker before noMarker]
  simp only [isMarker, isAngle, Bool.or_eq_false_iff, beq_eq_false_iff_ne, ne_eq,
    single.injEq] at noMarker
  obtain ⟨noExclamation, noLower, noUpper⟩ := noMarker
  have read : ∀ closingAngle, (scannerAfter before).readPlain position closingAngle c =
      ({ scannerAfter before with mode := .plain }, some (elementOf (regionAfter before) c)) := by
    intro closingAngle
    rw [Scanner.readPlain.eq_6 position (scannerAfter before) closingAngle c noBackslash
      noExclamation noLower noUpper noBracket]
    rfl
  simp only [Scanner.scan, readChar_scannerAfter, read, Option.toList_some, List.append_nil]

private theorem scan_escape (c : Char) :
    Scanner.scan position (scannerAfter before) ['\\', c] =
      .ok ([.literal c], scannerAfter (before ++ [escape c])) := by
  rw [scannerAfter_concat_of_not_marker before rfl]
  simp only [Scanner.scan, readChar_scannerAfter, Scanner.readPlain]
  rfl

private theorem scan_set {body later text : List Char} {slot : SetSlot}
    (cut : cutSet? text = some (body, later))
    (described : (SetText.ofText 1 (body ++ [']'])).Describes slot) :
    Scanner.scan position (scannerAfter before) (set body).text =
      .ok ([.charSet slot], scannerAfter (before ++ [set body])) := by
  rw [scannerAfter_concat_of_not_marker before rfl]
  have opened := Scanner.readChar_bracket position (scannerAfter_outside before)
  have finished :=
    (SetDraft.finish_iff_describes (cutSet?_other cut []) position slot).mpr described
  have inside : ({ scannerAfter before with mode := .inSet (SetDraft.opened position) } :
      Scanner).mode = .inSet (SetDraft.opened position) := rfl
  obtain ⟨front, same, read⟩ := Scanner.scan_of_finish inside finished
  have whole : body = front := List.append_cancel_right same
  subst front
  simp only [Token.text, Scanner.scan, opened, read, Option.toList_none, List.nil_append]

private theorem fails_of_unread {text : List Char}
    (unread : ∀ slot later,
      (SetDraft.opened position).finish (position + 1) text ≠ .ok (slot, later)) :
    ∃ fault, (scannerAfter before).Fails position ('[' :: text) fault := by
  have opened := Scanner.readChar_bracket position (scannerAfter_outside before)
  cases finished : (SetDraft.opened position).finish (position + 1) text with
  | ok outcome => exact (unread outcome.1 outcome.2 finished).elim
  | error fault =>
      exact ⟨fault, Scanner.Fails.cons opened (Scanner.fails_of_finish rfl finished)⟩

end OneMore

/-! ### All tokens -/

private theorem spell_silent (before : List Token) {token : Token}
    (silent : token.hasElement = false) :
    Spell before [token] [] := by
  simp only [Spell, inRegions, List.filter_cons, silent, Bool.false_eq_true, if_false]
  exact List.Forall₂.nil

private theorem spell_single (before : List Token) {token : Token} {element : Element}
    (shown : token.hasElement = true) (denoted : Denotes (regionAfter before) token element) :
    Spell before [token] [element] := by
  simp only [Spell, inRegions, List.filter_cons, shown, if_true]
  exact List.Forall₂.cons denoted List.Forall₂.nil

theorem Spell.cons {before rest : List Token} {token : Token} {elements later : List Element}
    (first : Spell before [token] elements) (others : Spell (before ++ [token]) rest later) :
    Spell before (token :: rest) (elements ++ later) := by
  have parts : inRegions before (token :: rest) =
      inRegions before [token] ++ inRegions (before ++ [token]) rest := rfl
  rw [Spell, parts, List.filter_append]
  exact List.rel_append first others

theorem Spell.length_add {before tokens : List Token} {elements : List Element}
    (spelled : Spell before tokens elements) :
    elements.length + (tokens.map surplus).sum = (tokens.flatMap text).length := by
  rw [← List.Forall₂.length_eq spelled]
  clear spelled
  induction tokens generalizing before with
  | nil => rfl
  | cons token rest ih =>
      have further := @ih (before ++ [token])
      rw [List.flatMap_cons, List.length_append, ← further, text_length, List.map_cons,
        List.sum_cons, inRegions, List.filter_cons]
      cases shown : token.hasElement with
      | true =>
          rw [if_pos rfl, if_pos rfl, List.length_cons]
          omega
      | false =>
          rw [if_neg Bool.false_ne_true, if_neg Bool.false_ne_true]
          omega

/-- How a text reads from behind some tokens: to its end and as its own tokens say, or with a
fault because one of them is unsound. -/
inductive Decided (before : List Token) (position : Nat) (pattern : List Char) : Prop where
  | reads (elements : List Element) (last : Scanner)
      (sound : ∀ token ∈ cut pattern, token.Sound)
      (read : Scanner.scan position (scannerAfter before) pattern = .ok (elements, last))
      (complete : last.faultAtEnd? = none)
      (direction : last.rightToLeft = decide (single '!' ∈ before ++ cut pattern))
      (spelled : Spell before (cut pattern) elements)
  | fails (token : Token) (fault : Fault) (member : token ∈ cut pattern)
      (unsound : ¬token.Sound) (failed : (scannerAfter before).Fails position pattern fault)

namespace Decided

variable (before : List Token) (position : Nat)

theorem nil : Decided before position [] := by
  have noToken : cut [] = [] := by rw [cut]
  have sound : ∀ token ∈ cut [], token.Sound := by
    rw [noToken]
    intro token member
    cases member
  have complete : (scannerAfter before).faultAtEnd? = none := by
    rcases scannerAfter_outside before with plain | afterLower
    · simp only [Scanner.faultAtEnd?, plain]
    · simp only [Scanner.faultAtEnd?, afterLower]
  have direction : (scannerAfter before).rightToLeft = decide (single '!' ∈ before ++ cut []) := by
    rw [noToken, List.append_nil]
    rfl
  have spelled : Spell before (cut []) [] := by
    rw [noToken]
    exact List.Forall₂.nil
  exact reads [] _ sound rfl complete direction spelled

theorem backslash : Decided before position ['\\'] := by
  have single : cut ['\\'] = [Token.backslash] := by rw [cut]
  have sound : ∀ token ∈ cut ['\\'], token.Sound := by
    rw [single]
    exact List.forall_mem_singleton.mpr trivial
  have read : Scanner.scan position (scannerAfter before) ['\\'] =
      .ok ([], { scannerAfter before with mode := .escaped }) := by
    simp only [Scanner.scan, readChar_scannerAfter, Scanner.readPlain]
    rfl
  have direction : (scannerAfter before).rightToLeft =
      decide (.single '!' ∈ before ++ cut ['\\']) := by
    simp [single, scannerAfter]
  have spelled : Spell before (cut ['\\']) [] := by
    rw [single]
    exact spell_silent before rfl
  exact reads [] _ sound read rfl direction spelled

theorem openSet {rest : List Char} (missing : cutSet? rest = none) :
    Decided before position ('[' :: rest) := by
  have unread : ∀ slot later,
      (SetDraft.opened position).finish (position + 1) rest ≠ .ok (slot, later) := by
    intro slot later finished
    obtain ⟨body, found⟩ := SetDraft.cutSet?_of_finish finished
    rw [missing] at found
    cases found
  obtain ⟨fault, failed⟩ := fails_of_unread before position unread
  have member : Token.openSet rest ∈ cut ('[' :: rest) := by
    rw [cut_openSet missing]
    exact List.mem_singleton_self _
  exact fails _ fault member id failed

theorem unsoundSet {rest body later : List Char} (found : cutSet? rest = some (body, later))
    (unsound : ¬(set body).Sound) : Decided before position ('[' :: rest) := by
  have unread : ∀ slot after,
      (SetDraft.opened position).finish (position + 1) rest ≠ .ok (slot, after) := by
    intro slot after finished
    obtain ⟨front, cut⟩ := SetDraft.cutSet?_of_finish finished
    rw [found] at cut
    cases cut
    exact unsound ⟨slot, (SetDraft.finish_iff_describes found position slot).mp finished⟩
  obtain ⟨fault, failed⟩ := fails_of_unread before position unread
  have member : set body ∈ cut ('[' :: rest) := by
    rw [cut_set found]
    exact List.mem_cons_self
  exact fails _ fault member unsound failed

variable {before position}

/-- One more token in front, which the scanner reads as it should. -/
theorem step {rest : List Char} {elements : List Element} (token : Token)
    (tokens : cut (token.text ++ rest) = token :: cut rest) (sound : token.Sound)
    (read : Scanner.scan position (scannerAfter before) token.text =
      .ok (elements, scannerAfter (before ++ [token])))
    (spelled : Spell before [token] elements)
    (later : Decided (before ++ [token]) (position + token.text.length) rest) :
    Decided before position (token.text ++ rest) := by
  cases later with
  | reads following last allSound readLater complete direction spelledLater =>
      have soundAll : ∀ other ∈ cut (token.text ++ rest), other.Sound := by
        rw [tokens]
        exact List.forall_mem_cons.mpr ⟨sound, allSound⟩
      have readAll : Scanner.scan position (scannerAfter before) (token.text ++ rest) =
          .ok (elements ++ following, last) := by
        simp only [Scanner.scan_append, read, readLater]
      have directionAll : last.rightToLeft =
          decide (single '!' ∈ before ++ cut (token.text ++ rest)) := by
        rw [direction, tokens, List.append_assoc, List.singleton_append]
      have spelledAll : Spell before (cut (token.text ++ rest)) (elements ++ following) := by
        rw [tokens]
        exact spelled.cons spelledLater
      exact reads _ last soundAll readAll complete directionAll spelledAll
  | fails bad fault member unsound failed =>
      have memberAll : bad ∈ cut (token.text ++ rest) := by
        rw [tokens]
        exact List.mem_cons_of_mem token member
      exact fails bad fault memberAll unsound (Scanner.Fails.append read failed)

end Decided

/-- Every text is read as its tokens say, or has an unsound token and a fault. -/
theorem decided (before : List Token) (position : Nat) (pattern : List Char) :
    Decided before position pattern := by
  induction pattern using cutInduction generalizing before position with
  | nil => exact Decided.nil before position
  | backslash => exact Decided.backslash before position
  | escape c rest ih =>
      have tokens : cut ((escape c).text ++ rest) = escape c :: cut rest := by
        simp only [Token.text, List.cons_append, List.nil_append, cut]
      exact Decided.step (escape c) tokens trivial (scan_escape before position c)
        (spell_single before rfl (Denotes.escape c)) (ih _ _)
  | openSet rest missing => exact Decided.openSet before position missing
  | set rest body later found ih =>
      by_cases sound : (set body).Sound
      · obtain ⟨slot, described⟩ := sound
        have tokens : cut ((set body).text ++ later) = set body :: cut later := by
          simp only [Token.text, List.cons_append, List.append_assoc, List.nil_append]
          exact cut_set (cutSet?_other found later)
        have step := Decided.step (set body) tokens ⟨slot, described⟩
          (scan_set before position found described)
          (spell_single before rfl (Denotes.set body slot described)) (ih _ _)
        rw [cutSet?_eq_append found]
        simp only [Token.text, List.cons_append, List.append_assoc, List.nil_append] at step
        exact step
      · exact Decided.unsoundSet before position found sound
  | single c rest noBackslash noBracket ih =>
      have tokens : cut (c :: rest) = single c :: cut rest := cut_single noBackslash noBracket
      cases marker : (single c).isMarker with
      | true =>
          have silent : (single c).hasElement = false := by
            simp only [hasElement, marker, Bool.not_true]
          exact Decided.step (single c) tokens trivial (scan_marker before position marker)
            (spell_silent before silent) (ih _ _)
      | false =>
          have shown : (single c).hasElement = true := by
            simp only [hasElement, marker, Bool.not_false]
          exact Decided.step (single c) tokens trivial
            (scan_single before position marker noBackslash noBracket)
            (spell_single before shown (elementOf_denoted _ c)) (ih _ _)

end Token

end InputMask.Pattern

namespace InputMask

open Pattern

/-- A pattern whose tokens are all sound denotes the mask that they spell, and any other pattern
has a fault. -/
theorem Mask.ofPattern_spelled (pattern : List Char) :
    match Mask.ofPattern pattern with
    | .error _ => ∃ token ∈ Token.cut pattern, ¬token.Sound
    | .ok mask => (∀ token ∈ Token.cut pattern, token.Sound) ∧
        Token.Spell [] (Token.cut pattern) mask.elements ∧
        mask.rightToLeft = decide (Token.single '!' ∈ Token.cut pattern) := by
  cases Token.decided [] 0 pattern with
  | reads elements last sound read complete direction spelled =>
      have ok : Mask.ofPattern pattern = .ok ⟨elements, last.rightToLeft⟩ := by
        change Scanner.scan 0 Scanner.start pattern = _ at read
        simp only [Mask.ofPattern, read, complete]
      rw [ok]
      exact ⟨sound, spelled, direction⟩
  | fails token fault member unsound fails =>
      have nothing : Scanner.scan 0 Scanner.start [] = .ok ([], Token.scannerAfter []) := rfl
      have failed := Mask.ofPattern_of_fails nothing fails
      rw [List.nil_append] at failed
      rw [failed]
      exact ⟨token, member, unsound⟩

/-- A pattern has a mask exactly if every bracket outside the other sets opens a set that
describes a slot. The mask then has one element for each token that is no marker, with the case
region that the angles in front of it open, and it is aligned to the right exactly if an
exclamation mark stands by itself. -/
theorem Mask.one_element_per_token (pattern : List Char) :
    (Token.cut pattern).flatMap Token.text = pattern ∧
      ((∃ mask, Mask.ofPattern pattern = .ok mask) ↔ ∀ token ∈ Token.cut pattern, token.Sound) ∧
      ∀ mask, Mask.ofPattern pattern = .ok mask →
        Token.Spell [] (Token.cut pattern) mask.elements ∧
          (mask.rightToLeft = true ↔ Token.single '!' ∈ Token.cut pattern) ∧
          mask.length + ((Token.cut pattern).map Token.surplus).sum = pattern.length := by
  have whole := Token.cut_flatMap_text pattern
  have spelled := Mask.ofPattern_spelled pattern
  refine ⟨whole, ?_⟩
  cases outcome : Mask.ofPattern pattern with
  | error fault =>
      rw [outcome] at spelled
      obtain ⟨token, member, unsound⟩ := spelled
      have notSound : ¬∀ token ∈ Token.cut pattern, token.Sound := fun sound =>
        unsound (sound token member)
      exact ⟨iff_of_false nofun notSound, nofun⟩
  | ok found =>
      rw [outcome] at spelled
      obtain ⟨sound, elements, direction⟩ := spelled
      constructor
      · exact iff_of_true ⟨found, rfl⟩ sound
      · intro mask same
        cases same
        rw [direction, decide_eq_true_iff]
        exact ⟨elements, Iff.rfl, elements.length_add.trans (congrArg List.length whole)⟩

/-- The exclamation mark parts the angles, so the second one opens a region and ends none. -/
theorem Mask.one_element_per_token_parted_angles :
    ∃ slot, Mask.ofPattern ['<', 'l', '!', '<', '!', '>', 'L', '[', 'b', ']', '\\', '<'] =
        .ok ⟨[.typed ⟨.letter, false, .lower⟩, .typed ⟨.letter, true, .upper⟩, .charSet slot,
          .literal '<'], true⟩ ∧
      Token.Spell []
        [.single '<', .single 'l', .single '!', .single '<', .single '!', .single '>',
          .single 'L', .set ['b'], .escape '<']
        [.typed ⟨.letter, false, .lower⟩, .typed ⟨.letter, true, .upper⟩, .charSet slot,
          .literal '<'] := by
  have tokens : Token.cut ['<', 'l', '!', '<', '!', '>', 'L', '[', 'b', ']', '\\', '<'] =
      [.single '<', .single 'l', .single '!', .single '<', .single '!', .single '>',
        .single 'L', .set ['b'], .escape '<'] := by
    have found : cutSet? ['b', ']', '\\', '<'] = some (['b'], ['\\', '<']) := rfl
    simp [Token.cut, Token.cut_set found]
  refine ⟨_, rfl, ?_⟩
  have read := ((Mask.one_element_per_token
    ['<', 'l', '!', '<', '!', '>', 'L', '[', 'b', ']', '\\', '<']).2.2 _ rfl).1
  rw [tokens] at read
  exact read

end InputMask
