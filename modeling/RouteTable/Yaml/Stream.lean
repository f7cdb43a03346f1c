/-
**The stream of tokens.**

The next token is known once no place before it can turn out to be an implicit key. `Lex.peekToken`
reads as far as that takes, and `Lex.takeToken` takes the token away.
-/

import RouteTable.Yaml.BlockText
import RouteTable.Yaml.Marker
import RouteTable.Yaml.Plain
import RouteTable.Yaml.Quoted

namespace RouteTable.Yaml

/-- The length within which an implicit key must end. -/
def maxKeyLength : Nat := 1024

namespace Lex

/-- Adds a token at the end. -/
def push (token : Token) : Lex Unit :=
  modify fun lexer => { lexer with queue := lexer.queue ++ [token] }

/-! ## Places of implicit keys -/

/-- Whether a place can no longer be a key: its line is over, or too much text follows it. -/
def isStale (lexer : Lexer) (place : KeyPlace) : Bool :=
  place.line ≠ lexer.line || maxKeyLength < lexer.index - place.index

/-- Forgets the places that can no longer be keys. -/
def forgetStale : Lex Unit := do
  let lexer ← get
  if lexer.keyPlaces.any fun place => isStale lexer place && place.required then fail .badToken
  set { lexer with keyPlaces := lexer.keyPlaces.filter fun place => !isStale lexer place }

/-- Forgets the place of the current collection. -/
def forgetPlace : Lex Unit := do
  let lexer ← get
  let here (place : KeyPlace) : Bool := place.flow = lexer.flow
  if lexer.keyPlaces.any fun place => here place && place.required then fail .badToken
  set { lexer with keyPlaces := lexer.keyPlaces.filter fun place => !here place }

/-- Remembers that a key may begin here. -/
def savePlace : Lex Unit := do
  let lexer ← get
  if lexer.mayOpenKey then
    forgetPlace
    let place : KeyPlace :=
      { flow := lexer.flow
        token := lexer.taken + lexer.queue.length
        required := lexer.flow = 0 && lexer.indent = lexer.column
        index := lexer.index
        line := lexer.line
        column := lexer.column }
    modify fun lexer => { lexer with keyPlaces := lexer.keyPlaces ++ [place] }

/-- Says whether a key may begin after the token that comes. -/
def allowKey (allowed : Bool) : Lex Unit := modify fun lexer => { lexer with mayOpenKey := allowed }

/-! ## Indentation -/

/-- Closes the block collections that are indented more than a column. -/
def unwind (column : Int) : Nat → Lex Unit
  | 0 => return ()
  | fuel + 1 => do
    let lexer ← get
    if lexer.flow = 0 && column < lexer.indent then
      set { lexer with
        indent := lexer.outer.headD (-1)
        outer := lexer.outer.tail
        queue := lexer.queue ++ [Token.blockEnd] }
      unwind column fuel

/-- Closes all block collections that are indented more than a column. -/
def unwindTo (column : Int) : Lex Unit := do unwind column ((← get).outer.length + 1)

/-- Opens a block collection at a column, unless one is open there. -/
def indentTo (column : Int) : Lex Bool := do
  let lexer ← get
  if lexer.indent < column then
    set { lexer with outer := lexer.indent :: lexer.outer, indent := column }
    return true
  else return false

/-! ## Tokens -/

/-- The end of the text. -/
def fetchEnd : Lex Unit := do
  unwindTo (-1)
  forgetPlace
  modify fun lexer =>
    { lexer with
      mayOpenKey := false
      keyPlaces := []
      finished := true
      queue := lexer.queue ++ [Token.streamEnd] }

/-- A directive. -/
def fetchDirective : Lex Unit := do
  unwindTo (-1)
  forgetPlace
  allowKey false
  push (← directive)

/-- The mark at the start or the end of a document. -/
def fetchDocumentMark (token : Token) : Lex Unit := do
  unwindTo (-1)
  forgetPlace
  allowKey false
  skip 3
  push token

/-- The opening bracket of a collection. -/
def fetchFlowStart (token : Token) : Lex Unit := do
  savePlace
  modify fun lexer => { lexer with flow := lexer.flow + 1, mayOpenKey := true }
  skip 1
  push token

/-- The closing bracket of a collection. -/
def fetchFlowEnd (token : Token) : Lex Unit := do
  forgetPlace
  modify fun lexer => { lexer with flow := lexer.flow - 1, mayOpenKey := false }
  skip 1
  push token

/-- A comma between brackets. -/
def fetchFlowEntry : Lex Unit := do
  allowKey true
  forgetPlace
  skip 1
  push .flowEntry

/-- The dash of a list item. -/
def fetchEntry : Lex Unit := do
  let lexer ← get
  if lexer.flow = 0 then
    if !lexer.mayOpenKey then fail .badToken
    if ← indentTo lexer.column then push .sequenceStart
  allowKey true
  forgetPlace
  skip 1
  push .entry

/-- The question mark of a key. -/
def fetchKey : Lex Unit := do
  let lexer ← get
  if lexer.flow = 0 then
    if !lexer.mayOpenKey then fail .badToken
    if ← indentTo lexer.column then push .mappingStart
  allowKey (lexer.flow = 0)
  forgetPlace
  skip 1
  push .key

/-- Puts tokens in front of a token that is read and not yet taken. -/
def insertAt (position : Nat) (tokens : List Token) : Lex Unit :=
  modify fun lexer =>
    { lexer with
      queue := lexer.queue.take (position - lexer.taken) ++ tokens ++
        lexer.queue.drop (position - lexer.taken) }

/-- The colon of a value: the place remembered for the current collection is a key. -/
def fetchValue : Lex Unit := do
  let lexer ← get
  match lexer.keyPlaces.find? fun place => place.flow = lexer.flow with
  | some place =>
    set { lexer with
      keyPlaces := lexer.keyPlaces.filter fun other => other.flow ≠ lexer.flow }
    let opens ← if lexer.flow = 0 then indentTo place.column else pure false
    insertAt place.token (if opens then [.mappingStart, .key] else [.key])
    allowKey false
  | none =>
    if lexer.flow = 0 then
      if !lexer.mayOpenKey then fail .badToken
      if ← indentTo lexer.column then push .mappingStart
    allowKey (lexer.flow = 0)
    forgetPlace
  skip 1
  push .value

/-- A token at which a key may begin and after which none may. -/
def fetchInline (read : Lex Token) : Lex Unit := do
  savePlace
  allowKey false
  push (← read)

/-- A block scalar. -/
def fetchBlockScalar (folded : Bool) : Lex Unit := do
  allowKey true
  forgetPlace
  push (← blockScalar folded)

/-- Passes blanks, comments and breaks up to the next token. -/
def toNextToken : Nat → Lex Unit
  | 0 => return ()
  | fuel + 1 => do
    let _ ← takeWhile (· = ' ')
    if (← peek 0) = some '#' then
      let _ ← takeWhile fun char => !isBreak char
    if !(← lineBreak).isEmpty then
      if (← get).flow = 0 then allowKey true
      toNextToken fuel

/-- Whether a plain scalar begins. -/
def startsPlain (inFlow : Bool) (char : Char) (next : Option Char) : Bool :=
  !(endsWord (some char) || "-?:,[]\x7b\x7d#&*!|>'\"%@\x60".toList.contains char) ||
    (!endsWord next && (char = '-' || (!inFlow && (char = '?' || char = ':'))))

/-- Reads the next token. -/
def fetch : Lex Unit := do
  if (← get).index = 0 && (← peek 0) = some (Char.ofNat 0xFEFF) then skip 1
  toNextToken (← get).limit
  forgetStale
  unwindTo (← get).column
  let lexer ← get
  let inFlow := lexer.flow ≠ 0
  let next := lexer.peek 1
  let blankFollows := endsWord next
  match lexer.rest.head? with
  | none => fetchEnd
  | some char =>
    if char = '%' && lexer.column = 0 then fetchDirective
    else if lexer.column = 0 && lexer.startsDocumentMark then
      fetchDocumentMark (if char = '-' then .documentStart else .documentEnd)
    else match char with
      | '[' => fetchFlowStart .flowSequenceStart
      | '\x7b' => fetchFlowStart .flowMappingStart
      | ']' => fetchFlowEnd .flowSequenceEnd
      | '\x7d' => fetchFlowEnd .flowMappingEnd
      | ',' => fetchFlowEntry
      | '*' => fetchInline (do return .alias (← markedName))
      | '&' => fetchInline (do return .anchor (← markedName))
      | '!' => fetchInline tag
      | '\'' => fetchInline (quotedScalar '\'')
      | '"' => fetchInline (quotedScalar '"')
      | _ =>
        if char = '-' && blankFollows then fetchEntry
        else if char = '?' && (inFlow || blankFollows) then fetchKey
        else if char = ':' && (inFlow || blankFollows) then fetchValue
        else if char = '|' && !inFlow then fetchBlockScalar false
        else if char = '>' && !inFlow then fetchBlockScalar true
        else if startsPlain inFlow char next then fetchInline plainScalar
        else fail .badToken

/-- Reads until the next token is certain. -/
def settle : Nat → Lex Unit
  | 0 => return ()
  | fuel + 1 => do
    let lexer ← get
    if lexer.finished then return ()
    else if lexer.queue.isEmpty then
      fetch
      settle fuel
    else
      forgetStale
      if (← get).keyPlaces.any fun place => place.token = lexer.taken then
        fetch
        settle fuel

/-- The next token. -/
def peekToken : Lex Token := do
  settle (2 * (← get).limit)
  return (← get).queue.headD .streamEnd

/-- Takes the next token. -/
def takeToken : Lex Token := do
  let token ← peekToken
  modify fun lexer => { lexer with queue := lexer.queue.tail, taken := lexer.taken + 1 }
  return token

/-- Takes the next token if it is the given one. -/
def acceptToken (wanted : Token) : Lex Bool := do
  if (← peekToken) = wanted then
    let _ ← takeToken
    return true
  else return false

end Lex

end RouteTable.Yaml
