/-
The reader of a set does at each token what the token is for, whether it took one character or
two. The marks come first and the items after them, so the reading splits in two: the marks
settle the flags, and the items are then taken one by one with the flags left alone.
-/
import InputMask.Proofs.Pattern.SetScan
import InputMask.Proofs.Pattern.SetText

namespace InputMask.Pattern

namespace SetItems

def take (items : SetItems) (token : SetToken) : Except Fault SetItems :=
  if token.IsDash then
    match items with
    | blank => .ok (blank.add token.char)
    | listed members last => .ok (dashed members last)
    | dashed _ _ => .error ⟨.doubledDash, token.position⟩
  else .ok (items.add token.char)

private theorem isBlank_add (items : SetItems) (c : Char) : (items.add c).isBlank = false := by
  cases items <;> rfl

private theorem isBlank_of_take {items next : SetItems} {token : SetToken}
    (taken : items.take token = .ok next) : next.isBlank = false := by
  unfold take at taken
  split at taken
  · split at taken <;> cases taken <;> rfl
  · cases taken
    exact isBlank_add items token.char

def members? : SetItems → Option CharSet
  | blank => none
  | listed members _ => some members
  | dashed members _ => some (members.insert '-')

end SetItems

namespace SetDraft

def readToken (draft : SetDraft) (token : SetToken) : Except Fault SetDraft :=
  if token.sign? == some '!' && draft.items.isBlank && !draft.negated then
    .ok { draft with negated := true }
  else if token.sign? == some '|' && draft.items.isBlank && !draft.negated && !draft.optional then
    .ok { draft with optional := true }
  else (draft.items.take token).map fun items => { draft with items := items }

/-- The end of the set: the text after the bracket is given, unless there is no bracket. -/
def conclude (draft : SetDraft) : Option (List Char) → Except Fault (SetSlot × List Char)
  | none => .error ⟨.unclosedSet, draft.openedAt⟩
  | some rest =>
      match draft.items.members? with
      | none => .error ⟨.emptySet, draft.openedAt⟩
      | some members => .ok (draft.slot members, rest)

/-! ### From characters to tokens -/

/-- A token that is none of the three signs is an item like any other. -/
private theorem readToken_of_unsigned (draft : SetDraft) (token : SetToken)
    (fresh : draft.escaped = false)
    (noDash : token.sign? ≠ some '-') (noNegation : token.sign? ≠ some '!')
    (noOption : token.sign? ≠ some '|') :
    draft.readToken token = .ok (draft.add token.char) := by
  have isNoDash : ¬token.IsDash := noDash
  simp [readToken, SetItems.take, isNoDash, noNegation, noOption, add, fresh, Except.map]

private theorem escaped_of_readToken {draft next : SetDraft} {token : SetToken}
    (fresh : draft.escaped = false) (read : draft.readToken token = .ok next) :
    next.escaped = false := by
  unfold readToken at read
  split at read
  · cases read
    exact fresh
  · split at read
    · cases read
      exact fresh
    · cases taken : draft.items.take token with
      | error fault =>
          rw [taken] at read
          cases read
      | ok items =>
          rw [taken] at read
          cases read
          exact fresh

theorem readChar_eq_readToken (position : Nat) (draft : SetDraft) (c : Char)
    (fresh : draft.escaped = false) (noBackslash : c ≠ '\\') (noBracket : c ≠ ']') :
    draft.readChar position c = (draft.readToken ⟨c, false, position⟩).map .reading := by
  by_cases signed : c = '-' ∨ c = '!' ∨ c = '|'
  · rcases draft with ⟨openedAt, negated, optional, escaped, items⟩
    cases fresh
    rcases signed with dash | negation | option
    · subst c
      cases items <;> rfl
    · subst c
      cases items <;> cases negated <;> rfl
    · subst c
      cases items <;> cases negated <;> cases optional <;> rfl
  · rw [not_or, not_or] at signed
    have read : draft.readToken ⟨c, false, position⟩ = .ok (draft.add c) := by
      apply readToken_of_unsigned draft _ fresh <;> simp [SetToken.sign?, signed]
    rw [read]
    simp [readChar, fresh, signed, Except.map]

theorem readChar_backslash (position : Nat) (draft : SetDraft) (fresh : draft.escaped = false) :
    draft.readChar position '\\' = .ok (.reading { draft with escaped := true }) := by
  unfold readChar
  rw [fresh]
  rfl

theorem readChar_closingBracket (position : Nat) (draft : SetDraft)
    (fresh : draft.escaped = false) : draft.readChar position ']' = draft.close := by
  unfold readChar
  rw [fresh]
  rfl

theorem close_eq (draft : SetDraft) :
    draft.close =
      (match draft.items.members? with
      | none => .error ⟨.emptySet, draft.openedAt⟩
      | some members => .ok (.closed (draft.slot members))) := by
  unfold close
  cases draft.items <;> rfl

theorem finish_eq_tokens (position : Nat) (draft : SetDraft) (text : List Char)
    (fresh : draft.escaped = false) :
    draft.finish position text =
      (match (SetText.ofText position text).tokens.foldlM readToken draft with
      | .error fault => .error fault
      | .ok last => last.conclude (SetText.ofText position text).rest?) := by
  induction position, text using SetText.ofText.induct generalizing draft with
  | case1 position => rfl
  | case2 position rest =>
      have read := readChar_closingBracket position draft fresh
      simp only [finish, read, close_eq, SetText.ofText, List.foldlM_nil, pure, Except.pure,
        conclude]
      cases draft.items.members? <;> rfl
  | case3 position c rest ih =>
      have backslash := readChar_backslash position draft fresh
      have unsigned : ∀ sign, SetToken.sign? ⟨c, true, position⟩ ≠ some sign :=
        fun sign => (Option.some_ne_none sign).symm
      have read : draft.readToken ⟨c, true, position⟩ = .ok (draft.add c) :=
        readToken_of_unsigned draft _ fresh (unsigned '-') (unsigned '!') (unsigned '|')
      have later := ih (draft.add c) rfl
      simp only [finish, backslash, SetText.ofText, SetText.push, List.foldlM_cons, read]
      exact later
  | case4 position c rest noBracket noEscape ih =>
      have cut : SetText.ofText position (c :: rest) =
          (SetText.ofText (position + 1) rest).push ⟨c, false, position⟩ := by
        rw [SetText.ofText]
        · exact noBracket
        · exact noEscape
      rw [cut, SetText.push, List.foldlM_cons, finish]
      by_cases backslash : c = '\\'
      · -- A backslash with nothing after it: the bracket is missing whatever it is taken for.
        subst c
        cases rest with
        | cons next others => exact (noEscape next others rfl rfl).elim
        | nil =>
            rw [readChar_backslash position draft fresh]
            rfl
      · rw [readChar_eq_readToken position draft c fresh backslash noBracket]
        cases read : draft.readToken ⟨c, false, position⟩ with
        | error fault => rfl
        | ok next => exact ih next (escaped_of_readToken fresh read)

/-! ### Marks and items -/

/-- A token that is no mark here is taken as an item. -/
theorem readToken_eq_take (draft : SetDraft) (token : SetToken)
    (noNegation : token.sign? = some '!' → (draft.items.isBlank && !draft.negated) = false)
    (noOption : token.sign? = some '|' →
      (draft.items.isBlank && !draft.negated && !draft.optional) = false) :
    draft.readToken token =
      (draft.items.take token).map fun items => { draft with items := items } := by
  unfold readToken
  rw [if_neg, if_neg]
  · intro mark
    rw [Bool.and_assoc, Bool.and_assoc, Bool.and_eq_true, ← Bool.and_assoc] at mark
    rw [noOption (eq_of_beq mark.1)] at mark
    exact Bool.false_ne_true mark.2
  · intro mark
    rw [Bool.and_assoc, Bool.and_eq_true] at mark
    rw [noNegation (eq_of_beq mark.1)] at mark
    exact Bool.false_ne_true mark.2

/-- If the first token is no mark then no later one is, because an item stands in front of it. -/
theorem foldlM_readToken_eq_take (draft : SetDraft) (tokens : List SetToken)
    (unmarked : ∀ first, tokens.head? = some first →
      draft.readToken first =
        (draft.items.take first).map fun items => { draft with items := items }) :
    tokens.foldlM readToken draft =
      (tokens.foldlM SetItems.take draft.items).map fun items => { draft with items := items } := by
  induction tokens generalizing draft with
  | nil => rfl
  | cons token rest ih =>
      rw [List.foldlM_cons, List.foldlM_cons, unmarked token rfl]
      cases taken : draft.items.take token with
      | error fault => rfl
      | ok items =>
          refine ih { draft with items := items } ?_
          intro first _second
          have listed := SetItems.isBlank_of_take taken
          refine readToken_eq_take _ first ?_ ?_
          · intro _mark
            rw [listed, Bool.false_and]
          · intro _mark
            rw [listed, Bool.false_and, Bool.false_and]

private theorem foldlM_readToken_negation (position : Nat) (optional : Bool) (first : SetToken)
    (rest : List SetToken) (negation : first.sign? = some '!') :
    (first :: rest).foldlM readToken ⟨position, false, optional, false, .blank⟩ =
      (rest.foldlM SetItems.take .blank).map fun items =>
        ⟨position, true, optional, false, items⟩ := by
  have read : readToken ⟨position, false, optional, false, .blank⟩ first =
      .ok ⟨position, true, optional, false, .blank⟩ := by
    simp [readToken, negation, SetItems.isBlank]
  rw [List.foldlM_cons, read]
  refine foldlM_readToken_eq_take ⟨position, true, optional, false, .blank⟩ rest ?_
  intro next _second
  exact readToken_eq_take _ next (fun _ => rfl) (fun _ => rfl)

private theorem foldlM_readToken_option (position : Nat) (first : SetToken) (rest : List SetToken)
    (option : first.sign? = some '|') :
    (first :: rest).foldlM readToken (opened position) =
      rest.foldlM readToken ⟨position, false, true, false, .blank⟩ := by
  have read : (opened position).readToken first =
      .ok ⟨position, false, true, false, .blank⟩ := by
    simp [readToken, option, opened, SetItems.isBlank]
  rw [List.foldlM_cons, read]
  rfl

/-- The marks settle the flags, and leave the items to be taken one by one. -/
private theorem foldlM_readToken_opened (position : Nat) (text : SetText) :
    text.tokens.foldlM readToken (opened position) =
      (text.items.foldlM SetItems.take .blank).map fun items =>
        ⟨position, decide ('!' ∈ text.marks), decide ('|' ∈ text.marks), false, items⟩ := by
  rcases text with ⟨tokens, rest?⟩
  -- No more than two tokens can be marks, and only in one order.
  cases tokens with
  | nil => rfl
  | cons first rest =>
      by_cases negation : first.sign? = some '!'
      · have marks : SetText.marks ⟨first :: rest, rest?⟩ = ['!'] := by
          simp [SetText.marks, negation]
        rw [SetText.items, marks]
        exact foldlM_readToken_negation position false first rest negation
      · by_cases option : first.sign? = some '|'
        · rw [foldlM_readToken_option position first rest option]
          cases rest with
          | nil =>
              have marks : SetText.marks ⟨[first], rest?⟩ = ['|'] := by
                simp [SetText.marks, option]
              rw [SetText.items, marks]
              rfl
          | cons second others =>
              by_cases both : second.sign? = some '!'
              · have marks : SetText.marks ⟨first :: second :: others, rest?⟩ = ['|', '!'] := by
                  simp [SetText.marks, option, both]
                rw [SetText.items, marks]
                exact foldlM_readToken_negation position true second others both
              · have marks : SetText.marks ⟨first :: second :: others, rest?⟩ = ['|'] := by
                  simp [SetText.marks, option, both]
                rw [SetText.items, marks]
                refine foldlM_readToken_eq_take ⟨position, false, true, false, .blank⟩
                  (second :: others) ?_
                intro next isSecond
                cases isSecond
                exact readToken_eq_take _ second (fun mark => absurd mark both) (fun _ => rfl)
        · have marks : SetText.marks ⟨first :: rest, rest?⟩ = [] := by
            simp [SetText.marks, negation, option]
          rw [SetText.items, marks]
          refine foldlM_readToken_eq_take (opened position) (first :: rest) ?_
          intro next isFirst
          cases isFirst
          exact readToken_eq_take _ first (fun mark => absurd mark negation)
            (fun mark => absurd mark option)

theorem finish_opened (openedAt : Nat) (text : List Char) :
    let set := SetText.ofText (openedAt + 1) text
    (opened openedAt).finish (openedAt + 1) text =
      (match set.items.foldlM SetItems.take .blank with
      | .error fault => .error fault
      | .ok items =>
          conclude ⟨openedAt, decide ('!' ∈ set.marks), decide ('|' ∈ set.marks), false, items⟩
            set.rest?) := by
  intro set
  rw [finish_eq_tokens (openedAt + 1) (opened openedAt) text rfl, foldlM_readToken_opened]
  cases set.items.foldlM SetItems.take .blank <;> rfl

end SetDraft

end InputMask.Pattern
