/-
**Operands.**

An operand is a literal, a construct, a name or a call, followed by any number of method calls,
scope resolutions, element references and blocks.
-/

import RouteTable.Source.Construct

namespace RouteTable.Source

/-- Whether a call already has a block. -/
def hasBlock (node : Node) : Bool := node.children.any (Node.isIn .block)

/-- Whether a block may follow an operand on its line. -/
def takesBlock (node : Node) : Bool :=
  match node.kind with
  | .identifier | .constant => true
  | .call => !hasBlock node
  | _ => false

/-- The children of an operand that becomes a call: a name is its method. -/
def callParts (node : Node) : List Node :=
  if node.kind = .call then node.children else [node.inField .method]

namespace Read

/-- The arguments after the name of a method, in parentheses or on its line; the second part says
that they are not in parentheses. -/
def callArguments (nested : Nested) (context : Context) : Read (List Node × Bool) := do
  let here ← get
  if here.next? = some '(' then
    return ([(← parenthesizedArguments nested).inField .arguments], false)
  else
    let ahead := here.skipSpaces
    if context.commands && startsArgument (ahead.offset ≠ here.offset) ahead.rest then
      return ([(← commandArguments nested context).inField .arguments], true)
    else return ([], false)

/-- Adds the blocks that follow an operand on its line. -/
def withBlock (nested : Nested) (context : Context) (node : Node) : Read Node := do
  if !takesBlock node then return node
  let here ← get
  let ahead := here.skipSpaces
  if ahead.next? = some '\x7b' then
    set ahead
    let block ← braceBlock nested
    closeFrom node .call (callParts node ++ [block.inField .block])
  else if context.doBlocks && startsKeyword "do" ahead.rest then
    set ahead
    match ← doBlock nested with
    | some block => closeFrom node .call (callParts node ++ [block.inField .block])
    | none => return node
  else return node

/-- The place of a dot that continues an operand, on its line or at the start of a later one. -/
def dotAhead? (cursor : Cursor) : Option Cursor :=
  let continues (place : Cursor) : Bool :=
    match place.rest with
    | '.' :: '.' :: _ => false
    | '.' :: _ => true
    | '&' :: '.' :: _ => true
    | _ => false
  let ahead := cursor.skipSpaces
  if continues ahead then some ahead
  else match ahead.rest with
    | '\n' :: _ | '#' :: _ =>
      let later := cursor.skipLines
      if continues later then some later else none
    | _ => none

/-- The name of a method after a dot. -/
def methodWord : Read Node := do
  let place ← get
  let word := markedWordOf place.rest
  if !word.isEmpty then
    skip word.length
    close place (if isConstant word then .constant else .identifier) []
  else match methodOperatorOf? place.rest with
    | some operator =>
      skip operator.length
      close place .other []
    | none => failure

/-- A call of a method on an operand, after the dot. -/
def methodCall (nested : Nested) (context : Context) (receiver : Node) : Read (Node × Bool) := do
  lines
  let receiver := receiver.inField .receiver
  if (← get).next? = some '(' then
    let arguments ← parenthesizedArguments nested
    return (← closeFrom receiver .call [receiver, arguments.inField .arguments], false)
  else
    let method ← methodWord
    let (arguments, command) ← callArguments nested context
    let call ← closeFrom receiver .call ([receiver, method.inField .method] ++ arguments)
    return (call, command)

/-- Adds everything that continues an operand. -/
def continued (nested : Nested) (context : Context) : Nat → Node → Read Node
  | 0, _ => failure
  | fuel + 1, node => do
    let here ← get
    let blocked ← withBlock nested context node
    if hasBlock blocked && !hasBlock node then continued nested context fuel blocked
    else match here.rest with
      | '[' :: _ =>
        skip 1
        let _ ← bracketed nested ']'
        continued nested context fuel (← closeFrom node .other [])
      | ':' :: ':' :: rest =>
        let word := wordOf rest
        if word.isEmpty then return node
        else
          skip 2
          let (call, command) ← methodCall nested context node
          if isConstant word && call.children.length = 2 then
            let resolution ← closeFrom node .scopeResolution []
            let blocked ← withBlock nested context call
            continued nested context fuel (if hasBlock blocked then blocked else resolution)
          else afterCall fuel call command
      | _ =>
        match dotAhead? here with
        | none => return node
        | some ahead =>
          set ahead
          skip (if ahead.next? = some '&' then 2 else 1)
          let (call, command) ← methodCall nested context node
          afterCall fuel call command
where
  /-- Goes on after a call; one with arguments on its line goes on only if it has a block. -/
  afterCall (fuel : Nat) (call : Node) (command : Bool) : Read Node := do
    if command then
      let blocked ← withBlock nested context call
      if hasBlock blocked then continued nested context fuel blocked else return blocked
    else continued nested context fuel call

/-- A text and the texts that follow it on its line. -/
def textChain (nested : Nested) : Read Node := do
  let first ← quotedBy nested.statements .string ((← get).next? = some '"')
  let rec more : Nat → Bool → Read Bool
    | 0, chained => return chained
    | fuel + 1, chained => do
      let ahead := (← get).skipSpaces
      match ahead.next? with
      | some quote =>
        if quote = '"' || quote = '\'' then
          set ahead
          let _ ← quotedBy nested.statements .string (quote = '"')
          more fuel true
        else return chained
      | none => return chained
  if ← more (← get).limit false then closeFrom first .other [] else return first

/-- A name with its arguments. -/
def named (nested : Nested) (context : Context) : Read (Node × Bool) := do
  let place ← get
  let word := markedWordOf place.rest
  skip word.length
  let name ← close place (if isConstant word then .constant else .identifier) []
  let marked := word.getLast?.any fun last => last = '?' || last = '!'
  let (arguments, command) ← callArguments nested context
  if arguments.isEmpty && !marked then return (name, false)
  else return (← close place .call (name.inField .method :: arguments), command)

/-- `super` with its arguments. -/
def superCall (nested : Nested) (context : Context) : Read (Node × Bool) := do
  let place ← get
  keyword "super"
  let name ← close place .other []
  let (arguments, command) ← callArguments nested context
  if arguments.isEmpty then return (name, false)
  else return (← close place .call (name.inField .method :: arguments), command)

/-- A word that stands for a value. -/
def valueWord (word : String) : Read Node := do
  let place ← get
  keyword word
  close place .other []

/-- An operand that a word begins; the second part says that it is a call with arguments on its
line. -/
def wordOperand (nested : Nested) (context : Context) : Read (Node × Bool) := do
  let text := (← get).rest
  let whole (read : Read Node) : Read (Node × Bool) := do return (← read, false)
  if !(startsAnyKeyword reservedWords text) then named nested context
  else match String.ofList (wordOf text) with
    | "if" => whole (conditional nested "if" .ifBranch)
    | "unless" => whole (conditional nested "unless" .unlessBranch)
    | "while" => whole (loop nested "while")
    | "until" => whole (loop nested "until")
    | "for" => whole (iteration nested)
    | "case" => whole (caseOf nested)
    | "begin" => whole (beginning nested)
    | "def" => whole (definition nested)
    | "class" => whole (classOrModule nested "class")
    | "module" => whole (classOrModule nested "module")
    | "return" => whole (wordWithValues nested context "return")
    | "break" => whole (wordWithValues nested context "break")
    | "next" => whole (wordWithValues nested context "next")
    | "yield" => whole (wordWithValues nested context "yield")
    | "redo" => whole (valueWord "redo")
    | "retry" => whole (valueWord "retry")
    | "self" => whole (valueWord "self")
    | "nil" => whole (valueWord "nil")
    | "true" => whole (valueWord "true")
    | "false" => whole (valueWord "false")
    | "alias" => whole (nameChange "alias")
    | "undef" => whole (nameChange "undef")
    | "BEGIN" => whole (outerBlock nested "BEGIN")
    | "END" => whole (outerBlock nested "END")
    | "super" => superCall nested context
    | _ => failure

/-- An operand before what continues it. -/
def simpleOperand (nested : Nested) (context : Context) : Read (Node × Bool) := do
  let whole (read : Read Node) : Read (Node × Bool) := do return (← read, false)
  let inside := nested.statements
  let text := (← get).rest
  match text with
  | '"' :: _ | '\'' :: _ => whole (textChain nested)
  | '\x60' :: _ => whole (quotedBy inside .other true)
  | ':' :: ':' :: rest =>
    let place ← get
    skip (2 + (wordOf rest).length)
    whole (close place .scopeResolution [])
  | ':' :: _ => whole (symbol inside)
  | '[' :: _ => whole (array nested)
  | '\x7b' :: _ => whole (hash nested)
  | '(' :: _ => whole (parenthesized nested)
  | '/' :: _ => whole (pattern inside)
  | '%' :: _ => if startsPercent text then whole (percent inside) else failure
  | '?' :: _ => whole character
  | '@' :: _ | '$' :: _ => whole signedName
  | '<' :: _ => whole heredoc
  | '-' :: '>' :: _ => whole (lambda nested)
  | '-' :: _ => if startsNegative text then whole negativeNumber else failure
  | mark :: _ =>
    if mark.isDigit then whole number
    else if isWordStart mark then wordOperand nested context
    else failure
  | [] => failure

/-- An operand. -/
def operand (nested : Nested) (context : Context) : Read Node := do
  let (node, command) ← simpleOperand nested context
  let limit := (← get).limit
  if command then
    let blocked ← withBlock nested context node
    if hasBlock blocked then continued nested context limit blocked else return blocked
  else continued nested context limit node

end Read

end RouteTable.Source
