/-
**Syntax trees of routing files.**

A node has a kind, a range of bytes of the source, a row and children. A child may stand in a
field of its parent, and an unnamed child (a bracket, an operator) is seen through its field only.
-/

import RouteTable.Text.Utf8

namespace RouteTable.Source

/-- The kinds of nodes that the conversion tells apart. -/
inductive Kind
  | call | identifier | constant | scopeResolution
  | program | bodyStatement | blockBody | beginBody | thenBody | elseBody | parenthesized | broken
  | ifBranch | unlessBranch | elsifBranch | ifModifier | unlessModifier
  | argumentList | blockArgument | splatArgument | hashSplatArgument | comment
  | pair | hash | doBlock | braceBlock | blockParameters
  | simpleSymbol | hashKeySymbol | bareSymbol | delimitedSymbol
  | string | bareString | array | symbolArray | stringArray | regex | interpolation
  | other
deriving DecidableEq, Repr, Inhabited

/-- The fields that the conversion looks into. -/
inductive Field
  | method | receiver | arguments | block | body | consequence | alternative | key | value
deriving DecidableEq, Repr

/-- A node of a syntax tree; `start` and `stop` count the bytes of the source before it and up to
its end, and `row` the lines before it. -/
inductive Node
  | mk (kind : Kind) (start stop row : Nat) (field : Option Field) (named : Bool)
      (children : List Node)
deriving Repr, Inhabited

namespace Node

/-- The kind of a node. -/
def kind : Node → Kind
  | ⟨kind, _, _, _, _, _, _⟩ => kind

/-- The field of its parent that a node stands in. -/
def field : Node → Option Field
  | ⟨_, _, _, _, field, _, _⟩ => field

/-- Whether a node is one of the named children of its parent. -/
def named : Node → Bool
  | ⟨_, _, _, _, _, named, _⟩ => named

/-- The children of a node. -/
def children : Node → List Node
  | ⟨_, _, _, _, _, _, children⟩ => children

/-- The row that a node starts in. -/
def row : Node → Nat
  | ⟨_, _, _, row, _, _, _⟩ => row

/-- Where a node starts. -/
def start : Node → Nat
  | ⟨_, start, _, _, _, _, _⟩ => start

/-- Where a node stops. -/
def stop : Node → Nat
  | ⟨_, _, stop, _, _, _, _⟩ => stop

/-- The children that are named. -/
def namedChildren (node : Node) : List Node := node.children.filter named

/-- The node in a field. -/
def inField (node : Node) (field : Field) : Node :=
  ⟨node.kind, node.start, node.stop, node.row, some field, node.named, node.children⟩

end Node

/-- The text of a range of bytes; faulty bytes are read as the replacement character. -/
def slice (source : ByteArray) (start stop : Nat) : String :=
  Text.Utf8.decodeLenient (source.extract start stop)

/-- The text of a node. -/
def Node.text (source : ByteArray) (node : Node) : String := slice source node.start node.stop

/-- The node stands in a field. -/
def Node.isIn (field : Field) (node : Node) : Bool := node.field = some field

/-- The first node that stands in a field. -/
def findField? (field : Field) (children : List Node) : Option Node :=
  children.find? (Node.isIn field)

end RouteTable.Source
