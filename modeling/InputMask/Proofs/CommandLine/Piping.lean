/-
Jobs in a pipe. If neither the value nor the mask can bring a line end into an applied line, the
next job finds exactly the applied lines, one for each line of the input, so that line numbers
still count the lines of the input.
-/
import InputMask.Proofs.CommandLine.Runs
import InputMask.Proofs.Filling.Stripping

namespace InputMask

namespace Mask

structure Unbroken (mask : Mask) (separators : Separators) (space : Char) : Prop where
  fixed : ∀ element ∈ mask.elements, element.fixed? separators ≠ some '\n' ∧
    element.fixed? separators ≠ some '\r'
  space : space ≠ '\n' ∧ space ≠ '\r'

variable {mask : Mask} {separators : Separators} {formatted : Bool} {space : Char}

private theorem not_mem_apply {line : List Char} {c : Char} (notSpace : c ≠ ' ')
    (notPlaceholder : space ≠ c)
    (notFixed : ∀ element ∈ mask.elements, element.fixed? separators ≠ some c)
    (absent : c ∉ line) : c ∉ mask.apply separators formatted space line := by
  intro member
  rcases mem_of_mem_apply member with removed | placeholder | inLayout
  · rcases mem_of_mem_remove removed with inLine | ⟨_raw, space⟩
    · exact absent inLine
    · exact notSpace space
  · exact notPlaceholder placeholder.symm
  · obtain ⟨element, inMask, shown⟩ := List.mem_map.mp inLayout
    exact notFixed element inMask shown

theorem Unbroken.lines_apply (unbroken : mask.Unbroken separators space) {text : List Char}
    (unreturned : '\r' ∉ text) :
    Text.lines (Text.mapLines (mask.apply separators formatted space) text) =
      (Text.lines text).map (mask.apply separators formatted space) := by
  apply Text.lines_mapLines
  intro line inText
  constructor
  · apply not_mem_apply (by decide) unbroken.space.1
    · exact fun element inMask => (unbroken.fixed element inMask).1
    · exact fun member => (Text.mem_of_mem_lines inText member).2 rfl
  · apply not_mem_apply (by decide) unbroken.space.2
    · exact fun element inMask => (unbroken.fixed element inMask).2
    · exact fun member => unreturned (Text.mem_of_mem_lines inText member).1

end Mask

namespace CommandLine

theorem applied_lines_piped (spec : Spec) (mask : Mask) (separators : Separators)
    (text : List Char) (compiled : spec.mask = .ok mask)
    (unbroken : mask.Unbroken separators spec.spacePlaceholder) (unreturned : '\r' ∉ text) :
    let applied (line : List Char) : List Char :=
      mask.apply separators spec.saveFormatted spec.spacePlaceholder line
    let written := (Job.onStreams .apply spec separators).output text
    Text.lines written = (Text.lines text).map applied ∧
      ∀ (laterSpec : Spec) (laterMask : Mask) (laterSeparators : Separators),
        laterSpec.mask = .ok laterMask →
          (Job.onStreams .remove laterSpec laterSeparators).output written =
              (Text.lines text).flatMap (fun line =>
                laterMask.remove laterSeparators laterSpec.saveFormatted (applied line) ++
                  ['\n']) ∧
            ∃ found : List (Nat × Nat),
              (Job.onStreams .check laterSpec laterSeparators).output written =
                  reportText found ∧
                found.Pairwise (fun left right => left.1 < right.1) ∧
                ∀ number slot, (number, slot) ∈ found ↔
                  ∃ index line, number = index + 1 ∧ (Text.lines text)[index]? = some line ∧
                    laterMask.violation? laterSeparators laterSpec.spacePlaceholder
                      (applied line) = some slot := by
  intro applied written
  have writtenLines : written = Text.mapLines applied text :=
    Job.output_eq .apply compiled separators text
  have lines : Text.lines written = (Text.lines text).map applied := by
    rw [writtenLines]
    exact unbroken.lines_apply unreturned
  refine ⟨lines, ?_⟩
  intro laterSpec laterMask laterSeparators laterCompiled
  let violation? := laterMask.violation? laterSeparators laterSpec.spacePlaceholder
  refine ⟨?_, reported violation? written, ?_, ?_, ?_⟩
  · rw [Job.output_eq .remove laterCompiled, Operation.result, lines, List.flatMap_map]
  · exact Job.output_eq .check laterCompiled laterSeparators written
  · exact reported_ascending violation? written
  · intro number slot
    rw [mem_reported_iff, lines]
    simp only [List.getElem?_map, Option.map_eq_some_iff]
    constructor
    · rintro ⟨index, _applied, numbered, ⟨line, inText, rfl⟩, violated⟩
      exact ⟨index, line, numbered, inText, violated⟩
    · rintro ⟨index, line, numbered, inText, violated⟩
      exact ⟨index, _, numbered, ⟨line, inText, rfl⟩, violated⟩

/-- The empty line in the middle and the last line, which is not ended, keep their places. -/
theorem applied_lines_piped_empty_line :
    let slot : Element := .typed ⟨.digit, true, .unchanged⟩
    let mask : Mask := ⟨[slot, .literal '-', slot], false⟩
    let spec : Spec := ⟨['0', '-', '0'], false, '_'⟩
    let later : Spec := ⟨['0', '-', '0'], true, '_'⟩
    let text := ['1', '2', '\n', '\n', '3']
    let written := (Job.onStreams .apply spec {}).output text
    (spec.mask = .ok mask ∧ later.mask = .ok mask) ∧
      mask.Unbroken {} spec.spacePlaceholder ∧ '\r' ∉ text ∧
      Text.lines written = [['1', '-', '2'], [' ', '-', ' '], ['3', '-', ' ']] ∧
      (Job.onStreams .remove later {}).output written =
        ['1', '2', '\n', ' ', ' ', '\n', '3', ' ', '\n'] := by
  intro slot mask spec later text written
  have compiled : spec.mask = .ok mask := rfl
  have laterCompiled : later.mask = .ok mask := rfl
  have unbroken : mask.Unbroken {} spec.spacePlaceholder := ⟨by decide, by decide⟩
  have unreturned : '\r' ∉ text := by decide
  have piped := applied_lines_piped spec mask {} text compiled unbroken unreturned
  have removed := (piped.2 later mask {} laterCompiled).1
  refine ⟨⟨compiled, laterCompiled⟩, unbroken, unreturned, piped.1.trans ?_, removed.trans ?_⟩
  · decide
  · decide

end CommandLine

end InputMask
