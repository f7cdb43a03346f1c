/-
**Reading source text.**

A cursor stands between two characters of a text and knows how many bytes and lines are before
it. Reading a part of the text moves the cursor or fails.

* `step_rest`: a step leaves one character behind.
-/

import RouteTable.Source.Tree

namespace RouteTable.Source

/-- A text block that is announced on a line and stands on the lines after it. -/
structure Heredoc where
  terminator : List Char
  indented : Bool
deriving Repr

/-- A place in a text. `limit` is more than the number of characters of the whole text, `pending`
holds the text blocks announced on the current line, `damaged` says that the text ended inside a
block, and `loose` holds the statements of such blocks. -/
structure Cursor where
  rest : List Char
  limit : Nat
  offset : Nat := 0
  row : Nat := 0
  pending : List Heredoc := []
  damaged : Bool := false
  loose : List Node := []

namespace Cursor

/-- The start of a text. -/
def ofText (text : String) : Cursor :=
  let chars := text.toList
  { rest := chars, limit := chars.length + 1 }

/-- Passes one character. -/
def step (cursor : Cursor) : Cursor :=
  match cursor.rest with
  | [] => cursor
  | char :: rest =>
    { cursor with
      rest
      offset := cursor.offset + char.utf8Size
      row := if char = '\n' then cursor.row + 1 else cursor.row }

/-- Passes a number of characters. -/
def skip : Nat → Cursor → Cursor
  | 0, cursor => cursor
  | count + 1, cursor => skip count cursor.step

/-- Passes characters as long as they are wanted. -/
def skipWhile (wanted : Char → Bool) : Nat → Cursor → Cursor
  | 0, cursor => cursor
  | fuel + 1, cursor =>
    match cursor.rest with
    | char :: _ => if wanted char then skipWhile wanted fuel cursor.step else cursor
    | [] => cursor

/-- The next character. -/
def next? (cursor : Cursor) : Option Char := cursor.rest.head?

/-- Whether the text goes on with a word. -/
def startsWith (cursor : Cursor) (word : String) : Bool := word.toList.isPrefixOf cursor.rest

theorem step_rest (cursor : Cursor) : cursor.step.rest = cursor.rest.tail := by
  unfold step
  split <;> simp_all

end Cursor

/-- A part of the text is read, or the reading fails. -/
abbrev Read (α : Type) : Type := StateT Cursor Option α

namespace Read

/-- Passes a number of characters. -/
def skip (count : Nat) : Read Unit := modify (Cursor.skip count)

/-- Passes a word if the text goes on with it. -/
def accept (word : String) : Read Bool := do
  if (← get).startsWith word then
    skip word.length
    return true
  else return false

/-- Passes a word that must come next. -/
def expect (word : String) : Read Unit := do
  unless ← accept word do failure

/-- The node from a place to where the reading stands. -/
def close (place : Cursor) (kind : Kind) (children : List Node) : Read Node := do
  return ⟨kind, place.offset, (← get).offset, place.row, none, true, children⟩

/-- The node from the start of another node to where the reading stands. -/
def closeFrom (first : Node) (kind : Kind) (children : List Node) : Read Node := do
  return ⟨kind, first.start, (← get).offset, first.row, none, true, children⟩

end Read

end RouteTable.Source
