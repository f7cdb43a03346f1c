/-
**The calls of a routing file.**

A text is read into a syntax tree and the tree into calls. Damage, such as a block that is never
closed, is reported and what could be read is kept.

* `readTree_kind`: every text is read into one program.
-/

import RouteTable.Notice
import RouteTable.Source.Calls
import RouteTable.Source.Expression

namespace RouteTable.Source

/-- The syntax tree of a text, and whether the text is damaged. A byte order mark is passed. -/
def readTree (text : String) : Node × Bool :=
  let start := Cursor.ofText text
  let start := if start.next? = some (Char.ofNat 0xFEFF) then start.step else start
  match (Read.program (2 * start.limit) start.limit []).run start with
  | some (statements, cursor) =>
    (⟨.program, 0, cursor.offset, 0, none, true, statements⟩, cursor.damaged)
  | none => (⟨.program, 0, 0, 0, none, true, []⟩, true)

/-- A way to read a text: its calls, and whether it is damaged. -/
abbrev Parser : Type := String → List Call × Bool

/-- The parser of routing files. -/
def parser : Parser := fun text =>
  let (tree, damaged) := readTree text
  (collect text.toUTF8 tree, damaged)

/-- The calls that a parser reads in a text, with the notice of its damage. -/
def Parser.read (parser : Parser) (name text : String) : List Call × List Notice :=
  let (calls, damaged) := parser text
  (calls, if damaged then [.syntaxErrors name] else [])

/-- The calls of a routing file, with the notice of its damage. -/
def readCalls (name text : String) : List Call × List Notice := parser.read name text

theorem readTree_kind (text : String) : (readTree text).1.kind = .program := by
  unfold readTree
  dsimp only
  split <;> rfl

end RouteTable.Source
