/-
**From syntax trees to calls.**

Statements are collected through every node that groups statements or makes them conditional, so
that each branch of a condition counts. A call node becomes a call with its positional arguments,
its options (bare pairs and a hash that comes last) and its block; literals become values, and any
other expression stays as its text.

* `collectAll_append`: the calls of a list of nodes are those of its parts in order.
-/

import RouteTable.Call
import RouteTable.Source.Tree

namespace RouteTable.Source

/-- Whether the named children of a node are statements. -/
def Kind.holdsStatements : Kind → Bool
  | .program | .bodyStatement | .blockBody | .beginBody | .thenBody | .elseBody
  | .parenthesized | .broken => true
  | _ => false

/-- Whether a child of an argument list is neither an argument nor an option. -/
def Kind.isNoArgument : Kind → Bool
  | .blockArgument | .splatArgument | .hashSplatArgument | .comment => true
  | _ => false

/-- Whether no further argument follows. -/
def endsArguments (rest : List Node) : Bool :=
  rest.all fun node => !node.named || node.kind.isNoArgument

/-- The positional arguments and the options of a call. -/
structure Arguments where
  positional : List Value := []
  options : Assoc Atom Value := []

/-- The key of a pair: a symbol or a text, or else the source of the expression. -/
def keyOf (value : Value) (source : String) : Atom :=
  match value with
  | .atom (.symbol name) => .symbol name
  | .atom (.text content) => .text content
  | .atom (.interpolated content) => .interpolated content
  | _ => .expression source

/-- The text of a node without the colons in front of it. -/
def symbolName (text : String) : String := String.ofList (text.toList.dropWhile (· = ':'))

/-- The content of a quoted node, and whether a part of it is interpolated. -/
def quotedContent (source : ByteArray) (children : List Node) : String × Bool :=
  let parts := children.filter Node.named
  (String.join (parts.map (Node.text source)), parts.any fun part => part.kind = .interpolation)

/-- The identifiers among block parameters. -/
def parameterNames (source : ByteArray) (children : List Node) : List String :=
  (children.filter fun child => child.named && child.kind = .identifier).map (Node.text source)

/-- What marks the arguments of a call: their field if it is there, else the kind. -/
def marksArguments (children : List Node) (child : Node) : Bool :=
  if children.any (Node.isIn .arguments) then child.isIn .arguments
  else child.named && child.kind = .argumentList

/-- What marks the block of a call: its field if it is there, else the kind. -/
def marksBlock (children : List Node) (child : Node) : Bool :=
  if children.any (Node.isIn .block) then child.isIn .block
  else child.named && (child.kind = .doBlock || child.kind = .braceBlock)

/-- The call of a call node with the parts that are read; without a method there is none. -/
def assembleCall (source : ByteArray) (row : Nat) (children : List Node)
    (receiver : Option Value) (arguments : Option Arguments) (block : Option Block) :
    Option Call :=
  (findField? .method children).map fun method =>
    { name := method.text source
      line := row + 1
      receiver
      arguments := some (arguments.getD {}).positional
      options := some (arguments.getD {}).options
      block }

/-- The call of a bare identifier. -/
def bareCall (name : String) (row : Nat) : Call :=
  { name, line := row + 1, receiver := none, arguments := some [], options := some [],
    block := none }

/-- Adds a pair to options already read; a pair without a key or a value is dropped. -/
def putPair (source : ByteArray) (children : List Node) (key value : Option Value)
    (read : Assoc Atom Value) : Assoc Atom Value :=
  match findField? .key children, key, value with
  | some written, some key, some value => read.put (keyOf key (written.text source)) value
  | _, _, _ => read

/-- The parameter names of a block; the last list of parameters counts. -/
def blockParameters (source : ByteArray) (children : List Node) : List String :=
  match (children.filter fun child => child.named && child.kind = .blockParameters).getLast? with
  | some parameters => parameterNames source parameters.children
  | none => []

section Conversion

variable (source : ByteArray)

mutual

/-- The calls that a statement stands for. -/
def collect : Node → List Call
  | ⟨kind, start, stop, row, _, _, children⟩ =>
    match kind with
    | .call =>
      (assembleCall source row children (valueWhere (Node.isIn .receiver) children)
        (argumentsWhere (marksArguments children) children)
        (blockWhere (marksBlock children) children)).toList
    | .identifier => [bareCall (slice source start stop) row]
    | .ifBranch | .unlessBranch | .elsifBranch =>
      collectField .consequence children ++ collectField .alternative children
    | .ifModifier | .unlessModifier => collectField .body children
    | kind => if kind.holdsStatements then collectAll children else []
termination_by structural node => node

/-- The calls of the named nodes of a list. -/
def collectAll : List Node → List Call
  | [] => []
  | child :: rest => (if child.named then collect child else []) ++ collectAll rest
termination_by structural children => children

/-- The calls of the first node in a field. -/
def collectField (field : Field) : List Node → List Call
  | [] => []
  | child :: rest => if child.isIn field then collect child else collectField field rest
termination_by structural children => children

/-- The value of the first node that is wanted. -/
def valueWhere (wanted : Node → Bool) : List Node → Option Value
  | [] => none
  | child :: rest => if wanted child then some (value child) else valueWhere wanted rest
termination_by structural children => children

/-- The arguments of the first node that is wanted. -/
def argumentsWhere (wanted : Node → Bool) : List Node → Option Arguments
  | [] => none
  | child :: rest =>
    if wanted child then some (argumentsOf child) else argumentsWhere wanted rest
termination_by structural children => children

/-- The arguments of an argument list. -/
def argumentsOf : Node → Arguments
  | ⟨_, _, _, _, _, _, children⟩ => addArguments {} children
termination_by structural node => node

/-- Adds the nodes of an argument list to the arguments already read. -/
def addArguments (read : Arguments) : List Node → Arguments
  | [] => read
  | ⟨kind, start, stop, row, field, named, children⟩ :: rest =>
    if !named || kind.isNoArgument then addArguments read rest
    else
      let node : Node := ⟨kind, start, stop, row, field, named, children⟩
      match kind with
      | .pair =>
        let key := valueWhere (Node.isIn .key) children
        let content := valueWhere (Node.isIn .value) children
        addArguments { read with options := putPair source children key content read.options } rest
      | .hash =>
        if endsArguments rest then { read with options := addPairs read.options children }
        else addArguments { read with positional := read.positional ++ [value node] } rest
      | _ => addArguments { read with positional := read.positional ++ [value node] } rest
termination_by structural children => children

/-- Adds the pairs of a list of nodes to options already read. -/
def addPairs (read : Assoc Atom Value) : List Node → Assoc Atom Value
  | [] => read
  | ⟨kind, _, _, _, _, named, children⟩ :: rest =>
    if named && kind = .pair then
      let key := valueWhere (Node.isIn .key) children
      let content := valueWhere (Node.isIn .value) children
      addPairs (putPair source children key content read) rest
    else addPairs read rest
termination_by structural children => children

/-- The block of the first node that is wanted. -/
def blockWhere (wanted : Node → Bool) : List Node → Option Block
  | [] => none
  | ⟨kind, start, stop, row, field, named, children⟩ :: rest =>
    if wanted ⟨kind, start, stop, row, field, named, children⟩ then
      some
        { parameters := some (blockParameters source children)
          body := some ((blockStatements children).map Value.call) }
    else blockWhere wanted rest
termination_by structural children => children

/-- The statements of a block: the calls of every child but the parameters. -/
def blockStatements : List Node → List Call
  | [] => []
  | child :: rest =>
    (if child.named && child.kind ≠ .blockParameters then collect child else []) ++
      blockStatements rest
termination_by structural children => children

/-- The values of the named nodes of a list, comments left out. -/
def values : List Node → List Value
  | [] => []
  | child :: rest =>
    if child.named && child.kind ≠ .comment then value child :: values rest else values rest
termination_by structural children => children

/-- The value of the only named node of a list. -/
def onlyValue? : List Node → Option Value
  | [] => none
  | child :: rest =>
    if child.named then if rest.any Node.named then none else some (value child)
    else onlyValue? rest
termination_by structural children => children

/-- The value that an expression stands for. -/
def value : Node → Value
  | ⟨kind, start, stop, row, _, _, children⟩ =>
    let text := slice source start stop
    match kind with
    | .simpleSymbol => .symbol (symbolName text)
    | .hashKeySymbol | .bareSymbol => .symbol text
    | .delimitedSymbol =>
      let (content, interpolated) := quotedContent source children
      if interpolated then .atom (.expression text) else .symbol content
    | .string =>
      let (content, interpolated) := quotedContent source children
      if interpolated then .interpolated content else .text content
    | .bareString => .text text
    | .array | .symbolArray | .stringArray => .array (values children)
    | .hash => .hash (addPairs [] children)
    | .regex => .atom (.pattern text)
    | .identifier | .constant | .scopeResolution => .atom (.identifier text)
    | .call =>
      ((assembleCall source row children (valueWhere (Node.isIn .receiver) children)
        (argumentsWhere (marksArguments children) children)
        (blockWhere (marksBlock children) children)).map Value.call).getD
        (.atom (.expression text))
    | .parenthesized => (onlyValue? children).getD (.atom (.expression text))
    | _ => .atom (.expression text)
termination_by structural node => node

end

theorem collectAll_append (first second : List Node) :
    collectAll source (first ++ second) = collectAll source first ++ collectAll source second := by
  induction first with
  | nil => simp [collectAll]
  | cons child rest ih => simp only [List.cons_append, collectAll, ih, List.append_assoc]

end Conversion

end RouteTable.Source
