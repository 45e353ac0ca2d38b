/-
Lines that are written and read again. A line of a text holds no line feed and only characters of
the text. Lines without line ends in them, each ended by a line feed, are read again as the same
lines, also where some of them are empty.

A text whose last line is ended has as many lines as line feeds.
-/
import InputMask.Text.Lines

namespace InputMask.Text

private theorem mem_of_mem_endedLine {collected : List Char} {c : Char}
    (member : c ∈ endedLine collected) : c ∈ collected := by
  unfold endedLine at member
  split at member
  · exact List.mem_cons_of_mem _ (List.mem_reverse.mp member)
  · exact List.mem_reverse.mp member

private theorem endedLine_reverse (line : List Char) (unreturned : '\r' ∉ line) :
    endedLine line.reverse = line := by
  unfold endedLine
  split
  · next collected same =>
      have returned : '\r' ∈ line.reverse := same ▸ List.mem_cons_self
      exact absurd (List.mem_reverse.mp returned) unreturned
  · exact line.reverse_reverse

private theorem mem_of_mem_linesFrom {collected text line : List Char} {c : Char}
    (inLines : line ∈ linesFrom collected text) (member : c ∈ line) :
    c ∈ collected ∨ (c ∈ text ∧ c ≠ '\n') := by
  induction text generalizing collected with
  | nil =>
      unfold linesFrom at inLines
      by_cases nothing : collected.isEmpty = true
      · rw [if_pos nothing] at inLines
        cases inLines
      · rw [if_neg nothing] at inLines
        rw [List.mem_singleton.mp inLines] at member
        exact Or.inl (List.mem_reverse.mp member)
  | cons d rest ih =>
      unfold linesFrom at inLines
      by_cases ends : d = '\n'
      · rw [if_pos ends] at inLines
        rcases List.mem_cons.mp inLines with first | beyond
        · rw [first] at member
          exact Or.inl (mem_of_mem_endedLine member)
        · rcases ih beyond with impossible | inRest
          · cases impossible
          · exact Or.inr ⟨List.mem_cons_of_mem d inRest.1, inRest.2⟩
      · rw [if_neg ends] at inLines
        rcases ih inLines with inCollected | inRest
        · rcases List.mem_cons.mp inCollected with same | earlier
          · rw [same]
            exact Or.inr ⟨List.mem_cons_self, ends⟩
          · exact Or.inl earlier
        · exact Or.inr ⟨List.mem_cons_of_mem d inRest.1, inRest.2⟩

theorem mem_of_mem_lines {text line : List Char} {c : Char} (inLines : line ∈ lines text)
    (member : c ∈ line) : c ∈ text ∧ c ≠ '\n' :=
  (mem_of_mem_linesFrom inLines member).resolve_left List.not_mem_nil

private theorem linesFrom_append (collected front back : List Char) (unbroken : '\n' ∉ front) :
    linesFrom collected (front ++ back) = linesFrom (front.reverse ++ collected) back := by
  induction front generalizing collected with
  | nil => rfl
  | cons c rest ih =>
      obtain ⟨different, restUnbroken⟩ := not_or.mp (mt List.mem_cons.mpr unbroken)
      rw [List.cons_append, linesFrom, if_neg (Ne.symm different), ih _ restUnbroken,
        List.reverse_cons, List.append_assoc]
      rfl

theorem lines_ended (written : List (List Char))
    (unbroken : ∀ line ∈ written, '\n' ∉ line ∧ '\r' ∉ line) :
    lines (written.flatMap (· ++ ['\n'])) = written := by
  induction written with
  | nil => rfl
  | cons line rest ih =>
      obtain ⟨unfed, unreturned⟩ := unbroken line List.mem_cons_self
      have later := ih (fun other member => unbroken other (List.mem_cons_of_mem line member))
      rw [List.flatMap_cons, List.append_assoc, lines, linesFrom_append _ _ _ unfed,
        List.append_nil, List.singleton_append, linesFrom, if_pos rfl,
        endedLine_reverse line unreturned]
      exact congrArg (line :: ·) later

theorem lines_mapLines (change : List Char → List Char) (text : List Char)
    (unbroken : ∀ line ∈ lines text, '\n' ∉ change line ∧ '\r' ∉ change line) :
    lines (mapLines change text) = (lines text).map change := by
  have ended : mapLines change text = ((lines text).map change).flatMap (· ++ ['\n']) := by
    rw [mapLines, List.flatMap_map]
  rw [ended, lines_ended]
  intro changed member
  obtain ⟨line, inLines, same⟩ := List.mem_map.mp member
  rw [← same]
  exact unbroken line inLines

/-! ### Texts whose last line is ended -/

private theorem linesFrom_length (collected text : List Char) :
    (linesFrom collected (text ++ ['\n'])).length = text.count '\n' + 1 := by
  induction text generalizing collected with
  | nil => rfl
  | cons c rest ih =>
      rw [List.cons_append, linesFrom]
      by_cases ends : c = '\n'
      · rw [if_pos ends, List.length_cons, ih, ends, List.count_cons_self]
      · rw [if_neg ends, ih, List.count_cons_of_ne ends]

theorem lines_length (text : List Char) :
    (lines (text ++ ['\n'])).length = text.count '\n' + 1 :=
  linesFrom_length [] text

theorem mapLines_append_lineFeed (change : List Char → List Char) (left right : List Char) :
    mapLines change (left ++ '\n' :: right) =
      mapLines change (left ++ ['\n']) ++ mapLines change right := by
  rw [mapLines, lines_append_lineFeed, List.flatMap_append]
  rfl

end InputMask.Text
