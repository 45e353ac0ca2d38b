/-
The text of a set by itself. A set is cut out of a pattern at its closing bracket, reads alike
wherever it stands and does not depend on what comes after the bracket. So the reader accepts it
exactly if the text between the brackets, taken alone, describes a slot.
-/
import InputMask.Proofs.Pattern.Relocation
import InputMask.Proofs.Pattern.Tokens

namespace InputMask.Pattern

theorem cutSet?_other {text body later : List Char} (cut : cutSet? text = some (body, later))
    (other : List Char) : cutSet? (body ++ ']' :: other) = some (body, other) := by
  induction text using cutSet?.induct generalizing body with
  | case1 => cases cut
  | case2 rest =>
      cases cut
      rfl
  | case3 c rest ih =>
      obtain ⟨⟨inner, after⟩, found, same⟩ := Option.map_eq_some_iff.mp cut
      cases same
      simp only [List.cons_append, cutSet?, ih found, Option.map_some]
  | case4 c rest noBracket noEscape ih =>
      rw [cutSet?.eq_4 c rest noBracket noEscape] at cut
      obtain ⟨⟨inner, after⟩, found, same⟩ := Option.map_eq_some_iff.mp cut
      cases same
      have noBackslash : c ≠ '\\' := by
        intro isBackslash
        cases rest with
        | nil => cases found
        | cons d others => exact noEscape d others isBackslash rfl
      rw [List.cons_append, cutSet?.eq_4 c _ noBracket
        (fun _ _ isBackslash _ => noBackslash isBackslash), ih found]
      rfl

theorem rest?_eq_cutSet? (position : Nat) (text : List Char) :
    (SetText.ofText position text).rest? = (cutSet? text).map Prod.snd := by
  induction position, text using SetText.ofText.induct with
  | case1 position => rfl
  | case2 position rest => rfl
  | case3 position c rest ih =>
      simp only [SetText.ofText, SetText.push, cutSet?, ih, Option.map_map]
      rfl
  | case4 position c rest noBracket noEscape ih =>
      rw [SetText.ofText.eq_4 position c rest noBracket noEscape,
        cutSet?.eq_4 c rest noBracket noEscape, Option.map_map]
      exact ih

theorem SetText.Describes.unique {text : SetText} {left right : SetSlot}
    (leftDescribed : text.Describes left) (rightDescribed : text.Describes right) :
    left = right := by
  have members : left.members = right.members := by
    refine CharSet.eq_of_mem_iff ?_
    intro c
    rw [leftDescribed.members c, rightDescribed.members c]
  have negated := leftDescribed.negated.trans rightDescribed.negated.symm
  have optional := leftDescribed.optional.trans rightDescribed.optional.symm
  cases left
  cases right
  cases members
  cases negated
  cases optional
  rfl

theorem SetText.describes_iff_finish (openedAt : Nat) (text : List Char) (slot : SetSlot) :
    (SetText.ofText (openedAt + 1) text).Describes slot ↔
      ∃ rest, (SetDraft.opened openedAt).finish (openedAt + 1) text = .ok (slot, rest) := by
  have spec := SetText.finish_spec openedAt text
  cases finished : (SetDraft.opened openedAt).finish (openedAt + 1) text with
  | error fault =>
      rw [finished] at spec
      constructor
      · intro described
        exact (described.not_faulty spec).elim
      · rintro ⟨rest, same⟩
        cases same
  | ok outcome =>
      obtain ⟨found, later⟩ := outcome
      rw [finished] at spec
      constructor
      · intro described
        rw [described.unique spec.2]
        exact ⟨later, rfl⟩
      · rintro ⟨rest, same⟩
        cases same
        exact spec.2

namespace SetDraft

private theorem finish_other {position : Nat} {draft : SetDraft} {text rest : List Char}
    {slot : SetSlot}
    (finished : draft.finish position text = .ok (slot, rest)) :
    ∃ body, text = body ++ ']' :: rest ∧
      ∀ other, draft.finish position (body ++ ']' :: other) = .ok (slot, other) := by
  induction text generalizing position draft with
  | nil => cases finished
  | cons c later ih =>
      unfold finish at finished
      cases progress : draft.readChar position c with
      | error fault =>
          rw [progress] at finished
          cases finished
      | ok outcome =>
          cases outcome with
          | reading further =>
              rw [progress] at finished
              obtain ⟨body, cut, read⟩ := ih finished
              refine ⟨c :: body, ?_, ?_⟩
              · rw [cut, List.cons_append]
              · intro other
                simp only [List.cons_append, finish, progress]
                exact read other
          | closed closing =>
              rw [progress] at finished
              cases finished
              have bracket := eq_bracket_of_closed progress
              subst bracket
              refine ⟨[], rfl, ?_⟩
              intro other
              simp only [List.nil_append, finish, progress]

/-- A set reads alike at every position. -/
private theorem finish_opened_iff (openedAt : Nat) (text rest : List Char) (slot : SetSlot) :
    (opened openedAt).finish (openedAt + 1) text = .ok (slot, rest) ↔
      (opened 0).finish 1 text = .ok (slot, rest) := by
  have moved := finish_moved openedAt 1 (opened 0) text
  have same : (opened 0).moved (· + openedAt) = opened openedAt := by
    rw [SetDraft.moved]
    exact congrArg opened (Nat.zero_add openedAt)
  rw [same, Nat.add_comm 1 openedAt] at moved
  rw [moved]
  cases (opened 0).finish 1 text with
  | error fault =>
      constructor
      · intro finished
        cases finished
      · intro finished
        cases finished
  | ok outcome => rfl

/-- The set that is read from a bracket on is the one that the text between the brackets
describes by itself. -/
theorem finish_iff_describes {text body later : List Char}
    (cut : cutSet? text = some (body, later)) (openedAt : Nat) (slot : SetSlot) :
    (opened openedAt).finish (openedAt + 1) text = .ok (slot, later) ↔
      (SetText.ofText 1 (body ++ [']'])).Describes slot := by
  rw [finish_opened_iff, SetText.describes_iff_finish 0]
  constructor
  · intro finished
    obtain ⟨front, same, read⟩ := finish_other finished
    rw [cutSet?_eq_append cut] at same
    rw [List.append_cancel_right same]
    exact ⟨[], read []⟩
  · rintro ⟨rest, finished⟩
    have spec := SetText.finish_spec 0 (body ++ [']'])
    rw [finished] at spec
    have none : rest = [] := by
      have ending := spec.1
      rw [rest?_eq_cutSet?, cutSet?_other cut] at ending
      exact (Option.some.inj ending).symm
    subst rest
    obtain ⟨front, same, read⟩ := finish_other finished
    rw [cutSet?_eq_append cut, List.append_cancel_right same]
    exact read later

theorem cutSet?_of_finish {openedAt : Nat} {text later : List Char} {slot : SetSlot}
    (finished : (opened openedAt).finish (openedAt + 1) text = .ok (slot, later)) :
    ∃ body, cutSet? text = some (body, later) := by
  have spec := SetText.finish_spec openedAt text
  rw [finished] at spec
  have ending := spec.1
  rw [rest?_eq_cutSet?] at ending
  obtain ⟨⟨body, after⟩, cut, same⟩ := Option.map_eq_some_iff.mp ending
  cases same
  exact ⟨body, cut⟩

end SetDraft

end InputMask.Pattern
