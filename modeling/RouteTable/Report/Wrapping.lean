/-
**Breaking long lines.**

A line is broken before a word that does not fit on it any more. A word that fits on no line is cut.
The blanks after a word stay on its line as far as there is room.

* `cut_join`: cutting a word loses nothing.
-/

import RouteTable.Text.Blank

namespace RouteTable.Wrapping

/-- The words of a line with the blanks after them; the blanks at the start belong to the first
word. `ended` says that a blank was passed after `word`. -/
def wordsLoop (word : List Char) (ended : Bool) : List Char → List (List Char)
  | [] => [word.reverse]
  | char :: rest =>
    if Text.isBlank char then wordsLoop (char :: word) (word.any fun char => !Text.isBlank char) rest
    else if ended then word.reverse :: wordsLoop [char] false rest
    else wordsLoop (char :: word) false rest

/-- The words of a line with the blanks after them. -/
def words (line : List Char) : List (List Char) := wordsLoop [] false line

/-- A word cut into pieces that fit on a line. -/
def cut (width : Nat) (word : List Char) : List (List Char) :=
  if _ : word.length ≤ width ∨ width = 0 then [word]
  else word.take width :: cut width (word.drop width)
termination_by word.length
decreasing_by
  rw [List.length_drop]
  omega

theorem cut_join (width : Nat) (word : List Char) : (cut width word).flatten = word := by
  fun_induction cut width word with
  | case1 word small => simp
  | case2 word large ih => rw [List.flatten_cons, ih, List.take_append_drop]

/-- The length of a word without the blanks after it. -/
def wordLength (word : List Char) : Nat := (word.reverse.dropWhile Text.isBlank).length

/-- Puts words on lines; `line` is the line that is being filled. -/
def fill (width : Nat) (line : List Char) : List (List Char) → List (List Char)
  | [] => [line]
  | word :: rest =>
    if line.length + wordLength word ≤ width then fill width (line ++ word) rest
    else
      let pieces := if width < wordLength word then cut width word else [word]
      let whole := pieces.dropLast
      let before := if line.isEmpty then [] else [line]
      before ++ whole ++ fill width (pieces.getLast?.getD []) rest

/-- The lines that a line is broken into. -/
def brokenLine (width : Nat) (line : List Char) : List (List Char) :=
  (fill width [] (words line)).map (List.take width)

/-- A text with its long lines broken. -/
def wrapped (width : Nat) (text : String) : String :=
  let lines := (Text.pieces (· = '\n') text.toList).flatMap (brokenLine width)
  String.ofList (Text.join ['\n'] lines)

end RouteTable.Wrapping
