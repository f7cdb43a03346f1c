/-
**Blanks, comments and line ends.**

Spaces and continued lines separate words, line ends separate statements. A text block that was
announced on a line is passed together with the end of that line.
-/

import RouteTable.Source.Cursor

namespace RouteTable.Source

/-- The blanks within a line. -/
def isSpace (char : Char) : Bool :=
  char = ' ' || char = '\t' || char = '\r' || char = '\x0b' || char = '\x0c'

/-- Whether a character ends a line. -/
def isLineEnd (char : Char) : Bool := char = '\n'

namespace Cursor

/-- Passes what remains of a line, without its end. -/
def skipLine (cursor : Cursor) : Cursor := cursor.skipWhile (fun char => char != '\n') cursor.limit

/-- Passes the end of a line and the lines of a text block after it, up to the end of its
terminator. -/
def skipHeredoc (heredoc : Heredoc) : Nat → Cursor → Cursor
  | 0, cursor => cursor
  | fuel + 1, cursor =>
    let line := cursor.step
    let indent := if heredoc.indented then (line.rest.takeWhile isSpace).length else 0
    let shown := (line.rest.drop indent).takeWhile fun char => !isLineEnd char
    let closes := heredoc.terminator.isPrefixOf shown &&
      (shown.drop heredoc.terminator.length).all isSpace
    if closes then line.skip (indent + heredoc.terminator.length)
    else
      let after := line.skipLine
      if after.rest.isEmpty then after else skipHeredoc heredoc fuel after

/-- Passes the end of a line and the text blocks announced on it; the blocks are returned, last
first. -/
def skipLineEnd (cursor : Cursor) : List Node × Cursor :=
  let pass (passed : List Node × Cursor) (heredoc : Heredoc) : List Node × Cursor :=
    let (blocks, place) := passed
    let after := place.skipHeredoc heredoc place.limit
    (⟨.other, place.offset, after.offset, place.row, none, true, []⟩ :: blocks, after)
  let (blocks, last) := cursor.pending.foldl pass ([], { cursor with pending := [] })
  (blocks, last.step)

/-- Passes spaces and line ends that a backslash continues. -/
def skipSpaces : Cursor → Cursor := fun start => loop start.limit start
where
  loop : Nat → Cursor → Cursor
    | 0, cursor => cursor
    | fuel + 1, cursor =>
      match cursor.rest with
      | '\\' :: '\n' :: _ => loop fuel (cursor.skip 2)
      | '\\' :: '\r' :: '\n' :: _ => loop fuel (cursor.skip 3)
      | char :: _ => if isSpace char then loop fuel cursor.step else cursor
      | [] => cursor

/-- Passes the lines of a comment from `=begin` to `=end`. -/
def skipCommentLines : Nat → Cursor → Cursor
  | 0, cursor => cursor
  | fuel + 1, cursor =>
    let after := cursor.skipLine
    if cursor.startsWith "=end" || after.rest.isEmpty then after
    else skipCommentLines fuel after.step

/-- Whether a comment of several lines begins. -/
def opensCommentLines (cursor : Cursor) : Bool :=
  cursor.startsWith "=begin" &&
    match cursor.rest.drop 6 with
    | [] => true
    | char :: _ => isSpace char || isLineEnd char

/-- The node of a comment. -/
def commentNode (first last : Cursor) : Node :=
  ⟨.comment, first.offset, last.offset, first.row, none, true, []⟩

/-- Passes spaces, line ends and comments, and with `separators` also semicolons. The comments and
the text blocks are returned, last first, after those already passed; `fresh` says that a line
begins here. -/
def skipLinesLoop (separators : Bool) : Nat → Bool → List Node → Cursor → List Node × Cursor
  | 0, _, passed, cursor => (passed, cursor)
  | fuel + 1, fresh, passed, cursor =>
    if fresh && cursor.opensCommentLines then
      let after := cursor.skipCommentLines cursor.limit
      skipLinesLoop separators fuel false (commentNode cursor after :: passed) after
    else
      let place := cursor.skipSpaces
      match place.rest with
      | '\n' :: _ =>
        let (blocks, after) := place.skipLineEnd
        skipLinesLoop separators fuel true (blocks ++ passed) after
      | '#' :: _ =>
        let after := place.skipLine
        skipLinesLoop separators fuel false (commentNode place after :: passed) after
      | ';' :: _ =>
        if separators then skipLinesLoop separators fuel false passed place.step
        else (passed, place)
      | _ => (passed, place)

/-- Passes spaces, line ends and comments. -/
def skipLines (cursor : Cursor) : Cursor :=
  (cursor.skipLinesLoop false cursor.limit (cursor.offset = 0) []).2

end Cursor

namespace Read

/-- Passes spaces. -/
def spaces : Read Unit := modify Cursor.skipSpaces

/-- Passes spaces, line ends and comments. -/
def lines : Read Unit := modify Cursor.skipLines

/-- Passes spaces, line ends and comments, and with `semicolons` those too; the comments and the
text blocks are the answer. -/
def passed (semicolons : Bool) : Read (List Node) := do
  let cursor ← get
  let (nodes, after) := cursor.skipLinesLoop semicolons cursor.limit (cursor.offset = 0) []
  set after
  return nodes.reverse

/-- Passes spaces, line ends, comments and semicolons; the comments and the text blocks are the
answer. -/
def separators : Read (List Node) := passed true

end Read

end RouteTable.Source
