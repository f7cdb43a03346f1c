/-
**Blocks and bodies.**

A block stands between `do` and `end` or between braces and may name its parameters. A body is a
list of statements that may have `rescue`, `else` and `ensure` clauses.
-/

import RouteTable.Source.Argument

namespace RouteTable.Source

namespace Read

/-- Passes a reserved word. -/
def keyword (word : String) : Read Unit := do
  if startsKeyword word (← get).rest then skip word.length else failure

/-- Passes a reserved word if it comes next. -/
def acceptKeyword (word : String) : Read Bool := do
  if startsKeyword word (← get).rest then
    skip word.length
    return true
  else return false

/-- Passes brackets with all that stands between them. -/
def balanced : Nat → Nat → Read Unit
  | 0, _ => failure
  | fuel + 1, depth => do
    match (← get).next? with
    | none => failure
    | some mark =>
      skip 1
      if mark = '(' || mark = '[' || mark = '\x7b' then balanced fuel (depth + 1)
      else if mark = ')' || mark = ']' || mark = '\x7d' then
        if depth ≤ 1 then return () else balanced fuel (depth - 1)
      else balanced fuel depth

/-- A parameter of a block. -/
def blockParameter (nested : Nested) : Read Node := do
  let place ← get
  let quiet : Context := { doBlocks := false, commands := false, pipes := false }
  let named : Read Unit := modify fun cursor => cursor.skip (wordOf cursor.rest).length
  match place.rest with
  | '(' :: _ =>
    balanced place.limit 0
    close place .other []
  | '*' :: '*' :: _ =>
    skip 2
    named
    close place .other []
  | '*' :: _ | '&' :: _ =>
    skip 1
    named
    close place .other []
  | text =>
    let length := (wordOf text).length
    if length = 0 then failure
    else
      skip length
      let word ← get
      match word.rest with
      | ':' :: _ =>
        skip 1
        let ahead := (← get).skipSpaces
        if ahead.next? = some ',' || ahead.next? = some '|' then close place .other []
        else
          set ahead
          let _ ← nested.expression ternaryLevel quiet
          close place .other []
      | _ =>
        let ahead := word.skipSpaces
        if startsEquals ahead.rest then
          set ahead
          skip 1
          lines
          let _ ← nested.expression ternaryLevel quiet
          close place .other []
        else close place .identifier []

/-- The parameters of a block up to the closing bar. -/
def parametersLoop (nested : Nested) : Nat → List Node → Read (List Node)
  | 0, _ => failure
  | fuel + 1, found => do
    lines
    match (← get).next? with
    | some '|' =>
      skip 1
      return found.reverse
    | some ',' | some ';' =>
      skip 1
      parametersLoop nested fuel found
    | _ =>
      let next ← blockParameter nested
      parametersLoop nested fuel (next :: found)

/-- The parameters of a block, if it names any. -/
def parameters (nested : Nested) : Read (List Node) := do
  let ahead := (← get).skipLines
  if ahead.next? = some '|' then
    set ahead
    skip 1
    let found ← parametersLoop nested ahead.limit []
    return [← close ahead .blockParameters found]
  else return []

/-- The exceptions of a `rescue` clause. -/
def exceptions (nested : Nested) : Nat → Read Unit
  | 0 => failure
  | fuel + 1 => do
    let quiet : Context := { doBlocks := false, commands := false }
    spaces
    let here ← get
    if startsKeyword "then" here.rest then return ()
    match here.rest with
    | [] | '\n' :: _ | ';' :: _ | '#' :: _ => return ()
    | '=' :: '>' :: _ =>
      skip 2
      spaces
      let _ ← nested.expression operandLevel quiet
      exceptions nested fuel
    | ',' :: _ =>
      skip 1
      lines
      exceptions nested fuel
    | '*' :: _ =>
      skip 1
      let _ ← nested.expression operandLevel quiet
      exceptions nested fuel
    | _ =>
      let _ ← nested.expression ternaryLevel quiet
      exceptions nested fuel

/-- The clauses after the statements of a body. -/
def clauses (nested : Nested) : Nat → List Node → Read (List Node)
  | 0, _ => failure
  | fuel + 1, found => do
    let place ← get
    if startsKeyword "rescue" place.rest then
      keyword "rescue"
      exceptions nested place.limit
      let _ ← acceptKeyword "then"
      let _ ← nested.statements
      clauses nested fuel ((← close place .other []) :: found)
    else if startsKeyword "else" place.rest then
      keyword "else"
      let body ← nested.statements
      clauses nested fuel ((← close place .elseBody body) :: found)
    else if startsKeyword "ensure" place.rest then
      keyword "ensure"
      let _ ← nested.statements
      clauses nested fuel ((← close place .other []) :: found)
    else return found.reverse

/-- The statements and clauses of a body. -/
def body (nested : Nested) : Read (List Node) := do
  let statements ← nested.statements
  return statements ++ (← clauses nested (← get).limit [])

/-- The `end` of a construct. -/
def ending : Read Unit := do
  separators *> keyword "end"

/-- A block between `do` and `end`. If the text ends inside it there is no block, and its
statements stay loose. -/
def doBlock (nested : Nested) : Read (Option Node) := do
  let place ← get
  keyword "do"
  let named ← parameters nested
  let first ← get
  let statements ← body nested
  let content ← if statements.isEmpty then pure [] else
    pure [(← close first .bodyStatement statements).inField .body]
  let _ ← separators
  if (← get).rest.isEmpty then
    let loose ← close place .broken statements
    modify fun cursor => { cursor with damaged := true, loose := [loose] }
    return none
  else
    keyword "end"
    return some (← close place .doBlock (named ++ content))

/-- A block between braces. -/
def braceBlock (nested : Nested) : Read Node := do
  let place ← get
  expect "\x7b"
  let named ← parameters nested
  let first ← get
  let statements ← nested.statements
  let content ← if statements.isEmpty then pure [] else
    pure [(← close first .blockBody statements).inField .body]
  let _ ← separators
  expect "\x7d"
  close place .braceBlock (named ++ content)

/-- The parameters of a lambda without parentheses: all up to its body. -/
def bareParameters : Nat → Read Unit
  | 0 => failure
  | fuel + 1 => do
    let here ← get
    if startsKeyword "do" here.rest then return ()
    match here.rest with
    | [] => failure
    | '\x7b' :: _ => return ()
    | text =>
      skip (max 1 (wordOf text).length)
      bareParameters fuel

/-- A lambda. -/
def lambda (nested : Nested) : Read Node := do
  let place ← get
  expect "->"
  spaces
  if (← get).next? = some '(' then
    balanced place.limit 0
    spaces
  else bareParameters place.limit
  if (← get).next? = some '\x7b' then
    let _ ← braceBlock nested
    close place .other []
  else
    keyword "do"
    let _ ← body nested
    ending
    close place .other []

end Read

end RouteTable.Source
