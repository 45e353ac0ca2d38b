/-
The sets that patterns denote. What the reader holds of the items determines the members they
name so far, and whether they end in a dash that has begun a range. One more item keeps this
true or is the first doubled dash, so a whole set is read as its finished list of items says.
-/
import Mathlib.Data.List.Induction
import InputMask.Proofs.Pattern.SetTokens

namespace InputMask.Pattern

/-! ### What the reader holds of the items -/

/-- The items that have been taken, and what is held of them. -/
inductive SetItems.Reads : List SetToken → SetItems → Prop where
  | blank : Reads [] .blank
  | listed (earlier : List SetToken) (item : SetToken) (members : CharSet)
      (shut : opensRange (earlier ++ [item]) = false)
      (named : ∀ c, c ∈ members ↔ Denotes false (earlier ++ [item]) c) :
      Reads (earlier ++ [item]) (.listed members item.char)
  | dashed (earlier : List SetToken) (item dash : SetToken) (members : CharSet)
      (opens : opensRange (earlier ++ [item] ++ [dash]) = true)
      (named : ∀ c, c ∈ members ↔ Denotes false (earlier ++ [item] ++ [dash]) c) :
      Reads (earlier ++ [item] ++ [dash]) (.dashed members item.char)

namespace SetItems

section OneMore

variable {items : List SetToken} {members : CharSet} (token : SetToken)

/-- An item that begins no range and ends none. -/
theorem Reads.insert (shut : opensRange items = false)
    (stillShut : opensRange (items ++ [token]) = false)
    (named : ∀ c, c ∈ members ↔ Denotes false items c) :
    Reads (items ++ [token]) (.listed (members.insert token.char) token.char) := by
  refine Reads.listed items token _ stillShut ?_
  intro c
  rw [CharSet.mem_insert, named c, denotes_concat, standsFor_last_iff_eq false items token c
    (isRangeDash_last_of_shut false items token stillShut) shut]

theorem Reads.hold (earlier : List SetToken) (item : SetToken)
    (opens : opensRange (earlier ++ [item] ++ [token]) = true)
    (named : ∀ c, c ∈ members ↔ Denotes false (earlier ++ [item]) c) :
    Reads (earlier ++ [item] ++ [token]) (.dashed members item.char) := by
  refine Reads.dashed earlier item token members opens ?_
  intro c
  rw [opensRange_eq_last] at opens
  have nothing := not_standsFor_of_rangeDash false (earlier ++ [item]) token c opens
  rw [named c, denotes_concat false (earlier ++ [item]) token]
  exact (or_iff_left nothing).symm

/-- One more item is taken, unless it is a dash after a range dash. -/
theorem Reads.take {state : SetItems} (reads : Reads items state) :
    match state.take token with
    | .ok next => Reads (items ++ [token]) next ∧ ¬(token.IsDash ∧ opensRange items = true)
    | .error fault => token.IsDash ∧ opensRange items = true ∧
        fault = ⟨.doubledDash, token.position⟩ := by
  cases reads with
  | blank =>
      have taken : SetItems.blank.take token = .ok (SetItems.blank.add token.char) := by
        unfold SetItems.take
        split <;> rfl
      have nothing : ∀ c, c ∈ CharSet.empty ↔ Denotes false [] c := by
        intro c
        exact iff_of_false nofun (not_denotes_nil false c)
      rw [taken]
      exact ⟨Reads.insert token rfl rfl nothing, nofun⟩
  | listed earlier item members shut named =>
      have notOpen : ¬(token.IsDash ∧ opensRange (earlier ++ [item]) = true) := by
        intro both
        rw [shut] at both
        exact Bool.false_ne_true both.2
      have further := opensRange_concat (earlier ++ [item]) token
      rw [shut] at further
      by_cases isDash : token.IsDash
      · rw [decide_eq_true isDash] at further
        rw [SetItems.take, if_pos isDash]
        refine ⟨Reads.hold token earlier item ?_ named, notOpen⟩
        rw [further]
        simp
      · rw [decide_eq_false isDash, Bool.and_false, Bool.false_and] at further
        rw [SetItems.take, if_neg isDash]
        exact ⟨Reads.insert token shut further named, notOpen⟩
  | dashed earlier item dash members opens named =>
      by_cases isDash : token.IsDash
      · rw [SetItems.take, if_pos isDash]
        exact ⟨isDash, opens, rfl⟩
      · have shut : opensRange (earlier ++ [item] ++ [dash] ++ [token]) = false := by
          rw [opensRange_concat, decide_eq_false isDash, Bool.and_false, Bool.false_and]
        rw [SetItems.take, if_neg isDash]
        refine ⟨?_, fun both => isDash both.1⟩
        refine Reads.listed (earlier ++ [item] ++ [dash]) token _ shut ?_
        intro c
        rw [CharSet.mem_insertRange, named c,
          denotes_concat false (earlier ++ [item] ++ [dash]) token,
          standsFor_last_iff_range false _ token earlier item dash c rfl opens]

end OneMore

private theorem foldlM_take_concat (items : List SetToken) (token : SetToken) :
    (items ++ [token]).foldlM SetItems.take blank =
      (match items.foldlM SetItems.take blank with
      | .error fault => .error fault
      | .ok state => state.take token) := by
  rw [List.foldlM_append]
  cases items.foldlM SetItems.take blank with
  | error fault => rfl
  | ok state => exact bind_pure (state.take token)

/-- The whole list of items: each of them has been taken, or the first doubled dash was met. -/
private theorem foldlM_take (items : List SetToken) :
    match items.foldlM SetItems.take blank with
    | .ok state => Reads items state ∧ ∀ index dash, ¬DoubledDash false items index dash
    | .error fault => ∃ index dash, FirstDoubledDash false items index dash ∧
        fault = ⟨.doubledDash, dash.position⟩ := by
  -- From the back: an item is judged by the items in front of it.
  induction items using List.reverseRecOn with
  | nil =>
      refine ⟨Reads.blank, ?_⟩
      intro index dash doubled
      exact nomatch doubled.next
  | append_singleton front token ih =>
      rw [foldlM_take_concat]
      cases outcome : front.foldlM SetItems.take blank with
      | error fault =>
          rw [outcome] at ih
          rcases ih with ⟨index, dash, found, same⟩
          exact ⟨index, dash, found.concat, same⟩
      | ok state =>
          rw [outcome] at ih
          rcases ih with ⟨reads, single⟩
          have taken := Reads.take token reads
          dsimp only
          cases step : state.take token with
          | error fault =>
              rw [step] at taken
              rcases taken with ⟨isDash, opens, same⟩
              exact ⟨_, token, firstDoubledDash_last single isDash opens, same⟩
          | ok next =>
              rw [step] at taken
              exact ⟨taken.1, not_doubledDash_concat single taken.2⟩

/-- The bracket makes a member of a dash in front of it and changes nothing else. -/
theorem Reads.mem_members_iff {items : List SetToken} {state : SetItems} {members : CharSet}
    (reads : Reads items state) (closing : state.members? = some members) (c : Char) :
    c ∈ members ↔ Denotes true items c := by
  cases reads with
  | blank => cases closing
  | listed earlier item held shut named =>
      cases closing
      rw [named c, denotes_closed_iff earlier item shut]
  | dashed earlier item dash held opens named =>
      cases closing
      have nothing := not_standsFor_of_rangeDash false (earlier ++ [item]) dash c
        ((opensRange_eq_last _ dash).symm.trans opens)
      rw [opensRange_concat, Bool.and_eq_true, Bool.and_eq_true] at opens
      have shut : opensRange (earlier ++ [item]) = false := (Bool.not_eq_true' _).mp opens.2
      have single : isRangeDash true (earlier ++ [item] ++ [dash]) (earlier ++ [item]).length =
          false := by
        rw [isRangeDash_last, Bool.not_true, Bool.and_false, Bool.false_and]
      have last := standsFor_last_iff_eq true (earlier ++ [item]) dash c single shut
      rw [SetToken.char_of_isDash (of_decide_eq_true opens.1.2)] at last
      rw [CharSet.mem_insert, named c, denotes_concat false (earlier ++ [item]) dash,
        denotes_concat true (earlier ++ [item]) dash, last, or_iff_left nothing]

theorem Reads.members?_eq_none_iff {items : List SetToken} {state : SetItems}
    (reads : Reads items state) : state.members? = none ↔ items = [] := by
  cases reads <;> simp [members?]

end SetItems

/-! ### Whole sets -/

namespace SetText

/-- What is wrong with a set that opens at a position of the pattern. A doubled dash counts
before a missing bracket, and the first one before any other. -/
inductive Faulty (openedAt : Nat) (text : SetText) : Fault → Prop where
  | doubledDash (index : Nat) (dash : SetToken)
      (found : FirstDoubledDash text.rest?.isSome text.items index dash) :
      Faulty openedAt text ⟨.doubledDash, dash.position⟩
  | unclosed (missing : text.rest? = none)
      (single : ∀ index dash, ¬DoubledDash false text.items index dash) :
      Faulty openedAt text ⟨.unclosedSet, openedAt⟩
  | empty (closed : text.rest?.isSome = true) (bare : text.items = []) :
      Faulty openedAt text ⟨.emptySet, openedAt⟩

/-- The set that a closed text describes. -/
structure Describes (text : SetText) (slot : SetSlot) : Prop where
  closed : text.rest?.isSome = true
  listed : text.items ≠ []
  single : ∀ index dash, ¬DoubledDash true text.items index dash
  negated : slot.negated = decide ('!' ∈ text.marks)
  optional : slot.optional = decide (text.marks = ['|'])
  members : ∀ c, c ∈ slot.members ↔ Denotes true text.items c

private theorem marks_cases (text : SetText) :
    text.marks = [] ∨ text.marks = ['|'] ∨ text.marks = ['!'] ∨ text.marks = ['|', '!'] := by
  unfold marks
  split <;> simp

private theorem optional_iff_marks (text : SetText) :
    (decide ('|' ∈ text.marks) && !decide ('!' ∈ text.marks)) = decide (text.marks = ['|']) := by
  rcases marks_cases text with none | option | negation | both
  · rw [none]
    rfl
  · rw [option]
    rfl
  · rw [negation]
    rfl
  · rw [both]
    rfl

/-- A reader that has just read the opening bracket finds what the text says. -/
theorem finish_spec (openedAt : Nat) (text : List Char) :
    let set := SetText.ofText (openedAt + 1) text
    match (SetDraft.opened openedAt).finish (openedAt + 1) text with
    | .error fault => set.Faulty openedAt fault
    | .ok (slot, rest) => set.rest? = some rest ∧ set.Describes slot := by
  intro set
  rw [SetDraft.finish_opened]
  have taken := SetItems.foldlM_take set.items
  cases outcome : set.items.foldlM SetItems.take .blank with
  | error fault =>
      rw [outcome] at taken
      rcases taken with ⟨index, dash, found, same⟩
      rw [same]
      exact Faulty.doubledDash index dash
        ((firstDoubledDash_iff_unclosed _ set.items index dash).mpr found)
  | ok items =>
      rw [outcome] at taken
      rcases taken with ⟨reads, single⟩
      dsimp only [SetDraft.conclude]
      cases ending : set.rest? with
      | none => exact Faulty.unclosed ending single
      | some rest =>
          have closed : set.rest?.isSome = true := by rw [ending, Option.isSome_some]
          cases closing : items.members? with
          | none => exact Faulty.empty closed (reads.members?_eq_none_iff.mp closing)
          | some members =>
              refine ⟨rfl, closed, ?_, ?_, rfl, optional_iff_marks set, ?_⟩
              · intro bare
                rw [reads.members?_eq_none_iff.mpr bare] at closing
                cases closing
              · intro index dash doubled
                exact single index dash
                  ((doubledDash_iff_unclosed true set.items index dash).mp doubled)
              · exact reads.mem_members_iff closing

theorem Describes.not_faulty {openedAt : Nat} {text : SetText} {slot : SetSlot} {fault : Fault}
    (describes : text.Describes slot) : ¬text.Faulty openedAt fault := by
  intro faulty
  cases faulty with
  | doubledDash index dash found =>
      rw [describes.closed] at found
      exact describes.single index dash found.toDoubledDash
  | unclosed missing single =>
      have closed := describes.closed
      rw [missing] at closed
      cases closed
  | empty closed bare => exact describes.listed bare

theorem Faulty.eq_of_doubledDash {openedAt : Nat} {text : SetText} {fault : Fault} {index : Nat}
    {dash : SetToken} (found : FirstDoubledDash text.rest?.isSome text.items index dash)
    (faulty : text.Faulty openedAt fault) : fault = ⟨.doubledDash, dash.position⟩ := by
  cases faulty with
  | doubledDash place other also => rw [found.unique also]
  | unclosed missing single =>
      have doubled := (doubledDash_iff_unclosed _ _ index dash).mp found.toDoubledDash
      exact (single index dash doubled).elim
  | empty closed bare =>
      have next := found.next
      rw [bare] at next
      cases next

theorem Faulty.unique {openedAt : Nat} {text : SetText} {left right : Fault}
    (leftFaulty : text.Faulty openedAt left) (rightFaulty : text.Faulty openedAt right) :
    left = right := by
  cases leftFaulty with
  | doubledDash index dash found => exact (rightFaulty.eq_of_doubledDash found).symm
  | unclosed missing single =>
      cases rightFaulty with
      | doubledDash index dash found =>
          exact (Faulty.unclosed missing single).eq_of_doubledDash found
      | unclosed _missing _single => rfl
      | empty closed bare =>
          rw [missing] at closed
          cases closed
  | empty closed bare =>
      cases rightFaulty with
      | doubledDash index dash found =>
          exact (Faulty.empty closed bare).eq_of_doubledDash found
      | unclosed missing single =>
          rw [missing] at closed
          cases closed
      | empty _closed _bare => rfl

end SetText

end InputMask.Pattern

namespace InputMask

open Pattern

/-- Every set in every pattern is read as its text says, wherever it opens outside another set:
if something is wrong with the text then just that is the fault of the pattern, and otherwise
the scanner comes out behind the closing bracket with the set that the text describes. -/
theorem Mask.charSet_read_as_described (before text : List Char) (elements : List Element)
    (scanner : Scanner)
    (reached : Scanner.scan 0 Scanner.start before = .ok (elements, scanner))
    (outside : scanner.mode = .plain ∨ scanner.mode = .afterLower) :
    let set := SetText.ofText (before.length + 1) text
    (∀ fault, set.Faulty before.length fault →
        Mask.ofPattern (before ++ '[' :: text) = .error fault) ∧
      ((∀ fault, ¬set.Faulty before.length fault) →
        ∃ body rest slot, text = body ++ ']' :: rest ∧ set.rest? = some rest ∧
          set.Describes slot ∧
          Scanner.scan 0 Scanner.start (before ++ '[' :: (body ++ [']'])) =
            .ok (elements ++ [.charSet slot], { scanner with mode := .plain })) := by
  intro set
  have opened := Scanner.readChar_bracket before.length outside
  have spec := SetText.finish_spec before.length text
  -- What the reader found excludes the other case, so each half has one case to prove.
  cases finished : (SetDraft.opened before.length).finish (before.length + 1) text with
  | error found =>
      rw [finished] at spec
      constructor
      · intro fault faulty
        rw [SetText.Faulty.unique faulty spec]
        exact Mask.ofPattern_of_fails reached
          (Scanner.Fails.cons opened (Scanner.fails_of_finish rfl finished))
      · intro sound
        exact (sound found spec).elim
  | ok outcome =>
      rcases outcome with ⟨slot, rest⟩
      rw [finished] at spec
      rcases spec with ⟨ending, describes⟩
      constructor
      · intro fault faulty
        exact (describes.not_faulty faulty).elim
      · intro _sound
        have inside : ({ scanner with mode := .inSet (SetDraft.opened before.length) } :
            Scanner).mode = .inSet (SetDraft.opened before.length) := rfl
        rcases Scanner.scan_of_finish inside finished with ⟨body, cut, read⟩
        refine ⟨body, rest, slot, cut, ending, describes, ?_⟩
        simp only [Scanner.scan_append, reached, Nat.zero_add, Scanner.scan, opened, read,
          Option.toList_none, List.nil_append]

/-- A second dash is a fault although the bracket is missing too; a dash in front of the
bracket is a member. -/
theorem Mask.charSet_read_after_digit :
    Mask.ofPattern ['0', '[', 'a', '-', '-'] = .error ⟨.doubledDash, 4⟩ ∧
      ∃ slot, (SetText.ofText 2 ['|', 'a', '-', 'c', '-', ']', 'x']).Describes slot ∧
        Scanner.scan 0 Scanner.start ['0', '[', '|', 'a', '-', 'c', '-', ']'] =
          .ok ([.typed ⟨.digit, true, .unchanged⟩, .charSet slot], Scanner.start) := by
  constructor
  · have read := Mask.charSet_read_as_described ['0'] ['a', '-', '-'] _ _ rfl (Or.inl rfl)
    refine read.1 _ (SetText.Faulty.doubledDash 1 ⟨'-', false, 4⟩ ⟨⟨rfl, rfl, rfl⟩, ?_⟩)
    intro earlier other also
    cases earlier with
    | zero => exact nomatch also.range
    | succ earlier => exact Nat.le_add_left 1 earlier
  · have read := Mask.charSet_read_as_described ['0'] ['|', 'a', '-', 'c', '-', ']', 'x'] _ _ rfl
      (Or.inl rfl)
    have sound : ∀ fault, ¬SetText.Faulty 1 (SetText.ofText 2
        ['|', 'a', '-', 'c', '-', ']', 'x']) fault := by
      intro fault faulty
      exact nomatch read.1 fault faulty
    rcases read.2 sound with ⟨body, rest, slot, cut, ending, describes, scanned⟩
    cases ending
    have sameBody : ['|', 'a', '-', 'c', '-'] = body := List.append_cancel_right cut
    subst body
    exact ⟨slot, describes, scanned⟩

end InputMask
