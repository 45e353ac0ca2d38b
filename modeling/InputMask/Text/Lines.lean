/-
The lines of a text. A line ends at a line feed, and one carriage return directly in front of
that line feed belongs to the line end. The last line need not be ended; nothing comes after a
final line feed.

The main statement, `lines_append_lineFeed`, says that a text may be cut after any line feed.
-/

namespace InputMask.Text

/-- A line whose characters have been collected in reverse, without the carriage return that
belongs to its end. -/
def endedLine : List Char → List Char
  | '\r' :: collected => collected.reverse
  | collected => collected.reverse

def linesFrom (collected : List Char) : List Char → List (List Char)
  | [] => if collected.isEmpty then [] else [collected.reverse]
  | c :: rest =>
      if c = '\n' then endedLine collected :: linesFrom [] rest
      else linesFrom (c :: collected) rest

def lines (text : List Char) : List (List Char) := linesFrom [] text

theorem linesFrom_append_lineFeed (collected left right : List Char) :
    linesFrom collected (left ++ '\n' :: right) =
      linesFrom collected (left ++ ['\n']) ++ lines right := by
  induction left generalizing collected with
  | nil => rfl
  | cons c rest ih =>
      simp only [List.cons_append, linesFrom]
      by_cases ends : c = '\n'
      · rw [if_pos ends, if_pos ends, ih, List.cons_append]
      · rw [if_neg ends, if_neg ends, ih]

theorem lines_append_lineFeed (left right : List Char) :
    lines (left ++ '\n' :: right) = lines (left ++ ['\n']) ++ lines right :=
  linesFrom_append_lineFeed [] left right

def mapLines (change : List Char → List Char) (text : List Char) : List Char :=
  (lines text).flatMap (fun line => change line ++ ['\n'])

end InputMask.Text
