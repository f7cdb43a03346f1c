/-
**Cutting text.**

Text is cut as a list of characters. `pieces` keeps the empty pieces, `words` drops them, and
`strip` drops unwanted characters at both ends.

* `pieces_ne_nil`: there is always a piece;
* `not_mem_of_mem_pieces`: no piece holds a separator.
-/

namespace RouteTable.Text

/-- The pieces between separators; a text with `n` separators has `n + 1` pieces. -/
def pieces (separates : Char → Bool) : List Char → List (List Char)
  | [] => [[]]
  | head :: rest =>
    if separates head then [] :: pieces separates rest
    else match pieces separates rest with
      | [] => [[head]]
      | piece :: others => (head :: piece) :: others

/-- The nonempty pieces between separators. -/
def words (separates : Char → Bool) (text : List Char) : List (List Char) :=
  (pieces separates text).filter fun piece => !piece.isEmpty

/-- Drops unwanted characters at both ends. -/
def strip (unwanted : Char → Bool) (text : List Char) : List Char :=
  ((text.dropWhile unwanted).reverse.dropWhile unwanted).reverse

/-- The text before the first `mark` and the text after it. -/
def cutAt (mark : Char) : List Char → Option (List Char × List Char)
  | [] => none
  | head :: rest =>
    if head = mark then some ([], rest)
    else (cutAt mark rest).map fun parts => (head :: parts.1, parts.2)

/-- Joins texts with a text between each two. -/
def join (between : List Char) : List (List Char) → List Char
  | [] => []
  | [piece] => piece
  | piece :: rest => piece ++ between ++ join between rest

/-- Whether `part` stands somewhere in the text. -/
def hasInside (part : List Char) : List Char → Bool
  | [] => part.isEmpty
  | head :: rest => part.isPrefixOf (head :: rest) || hasInside part rest

theorem pieces_ne_nil (separates : Char → Bool) (text : List Char) :
    pieces separates text ≠ [] := by
  cases text with
  | nil => simp [pieces]
  | cons head rest =>
    rw [pieces]
    split
    · simp
    · split <;> simp

theorem not_mem_of_mem_pieces {separates : Char → Bool} {text piece : List Char}
    (member : piece ∈ pieces separates text) {char : Char} (inside : char ∈ piece) :
    separates char = false := by
  induction text generalizing piece with
  | nil => simp_all [pieces]
  | cons head rest ih =>
    rw [pieces] at member
    by_cases cut : separates head = true
    · rw [if_pos cut] at member
      rcases List.mem_cons.1 member with rfl | later
      · simp at inside
      · exact ih later inside
    · rw [if_neg cut] at member
      split at member
      · next none => exact absurd none (pieces_ne_nil separates rest)
      · next first others found =>
        rcases List.mem_cons.1 member with rfl | later
        · rcases List.mem_cons.1 inside with rfl | deeper
          · simpa using cut
          · exact ih (found ▸ List.mem_cons_self) deeper
        · exact ih (found ▸ List.mem_cons_of_mem first later) inside

end RouteTable.Text
