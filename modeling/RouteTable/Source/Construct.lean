/-
**Constructs that a reserved word begins.**

Conditions keep their branches as children, since routes may be declared in them. Loops,
definitions and the other constructs are passed as a whole.
-/

import RouteTable.Source.Block

namespace RouteTable.Source

namespace Read

/-- A condition of a loop or a branch; a `do` after the condition of a loop belongs to the loop. -/
def condition (nested : Nested) (loop : Bool) : Read Unit := do
  lines
  let _ ← nested.expression 0 { doBlocks := !loop }

/-- The statements of a branch. -/
def branch (nested : Nested) : Read Node := do
  spaces
  let _ ← acceptKeyword "then"
  let _ ← separators
  let _ ← acceptKeyword "then"
  let place ← get
  close place .thenBody (← nested.statements)

/-- The alternatives of a condition: each `elsif` with its branch, then the `else`. -/
def alternatives (nested : Nested) : Nat → Read (List Node)
  | 0 => failure
  | fuel + 1 => do
    let place ← get
    if ← acceptKeyword "elsif" then
      condition nested false
      let consequence ← branch nested
      let others ← alternatives nested fuel
      let whole ← close place .elsifBranch (consequence.inField .consequence :: others)
      return [whole.inField .alternative]
    else if ← acceptKeyword "else" then
      let otherwise ← close place .elseBody (← nested.statements)
      return [otherwise.inField .alternative]
    else return []

/-- `if` and `unless`. -/
def conditional (nested : Nested) (word : String) (kind : Kind) : Read Node := do
  let place ← get
  keyword word
  condition nested false
  let consequence ← branch nested
  let others ← alternatives nested place.limit
  ending
  close place kind (consequence.inField .consequence :: others)

/-- `while` and `until`. -/
def loop (nested : Nested) (word : String) : Read Node := do
  let place ← get
  keyword word
  condition nested true
  let _ ← separators
  let _ ← acceptKeyword "do"
  let _ ← nested.statements
  ending
  close place .other []

/-- Passes all up to a reserved word on the same line. -/
def passUntil (word : String) : Nat → Read Unit
  | 0 => failure
  | fuel + 1 => do
    let here ← get
    if startsKeyword word here.rest then return ()
    match here.rest with
    | [] | '\n' :: _ => failure
    | text =>
      skip (max 1 (wordOf text).length)
      passUntil word fuel

/-- `for … in … end`. -/
def iteration (nested : Nested) : Read Node := do
  let place ← get
  keyword "for"
  passUntil "in" place.limit
  keyword "in"
  condition nested true
  let _ ← separators
  let _ ← acceptKeyword "do"
  let _ ← nested.statements
  ending
  close place .other []

/-- The values of a `when`. -/
def choices (nested : Nested) : Nat → Read Unit
  | 0 => failure
  | fuel + 1 => do
    lines
    let _ ← argument nested { doBlocks := false }
    let ahead := (← get).skipSpaces
    if ahead.next? = some ',' then
      set ahead
      skip 1
      choices nested fuel

/-- A pattern after `in`: all up to `then` or the end of the line. -/
def casePattern : Nat → Read Unit
  | 0 => failure
  | fuel + 1 => do
    let here ← get
    if startsKeyword "then" here.rest then return ()
    match here.rest with
    | [] | '\n' :: _ | ';' :: _ => return ()
    | text =>
      skip (max 1 (wordOf text).length)
      casePattern fuel

/-- The branches of a `case`. -/
def caseBranches (nested : Nested) : Nat → Read Unit
  | 0 => failure
  | fuel + 1 => do
    let _ ← separators
    let place ← get
    if ← acceptKeyword "when" then
      choices nested place.limit
      let _ ← branch nested
      caseBranches nested fuel
    else if ← acceptKeyword "in" then
      casePattern place.limit
      let _ ← branch nested
      caseBranches nested fuel
    else if ← acceptKeyword "else" then
      let _ ← nested.statements
      caseBranches nested fuel
    else return ()

/-- `case … end`. -/
def caseOf (nested : Nested) : Read Node := do
  let place ← get
  keyword "case"
  spaces
  match (← get).rest with
  | '\n' :: _ | ';' :: _ | '#' :: _ => pure ()
  | _ =>
    let _ ← nested.expression 0 {}
    pure ()
  caseBranches nested place.limit
  ending
  close place .other []

/-- `begin … end`. -/
def beginning (nested : Nested) : Read Node := do
  let place ← get
  keyword "begin"
  let content ← body nested
  ending
  close place .beginBody content

/-- The name of a defined method. -/
def methodName : Read Unit := do
  spaces
  let name : Read Unit := do
    let here ← get
    let word := markedWordOf here.rest
    if !word.isEmpty then
      skip word.length
      match (← get).rest with
      | '=' :: '(' :: _ => skip 1
      | '=' :: ' ' :: '(' :: _ => skip 1
      | _ => pure ()
    else
      match methodOperatorOf? here.rest with
      | some operator => skip operator.length
      | none => failure
  name
  if (← get).next? = some '.' then
    skip 1
    name

/-- `def … end`, or a definition by one expression. -/
def definition (nested : Nested) : Read Node := do
  let place ← get
  keyword "def"
  methodName
  spaces
  let enclosed := (← get).next? = some '('
  if enclosed then balanced place.limit 0
  let ahead := (← get).skipSpaces
  if startsEquals ahead.rest then
    set ahead
    skip 1
    lines
    let _ ← nested.expression argumentLevel {}
    close place .other []
  else
    unless enclosed do
      modify fun cursor =>
        cursor.skipWhile (fun char => !(isLineEnd char || char = ';' || char = '#')) cursor.limit
    let _ ← body nested
    ending
    close place .other []

/-- `class … end` and `module … end`. -/
def classOrModule (nested : Nested) (word : String) : Read Node := do
  let place ← get
  keyword word
  spaces
  let _ ← accept "<<"
  spaces
  let _ ← nested.expression ternaryLevel {}
  let _ ← body nested
  ending
  close place .other []

/-- A word with the values after it on its line, such as `return`. -/
def wordWithValues (nested : Nested) (context : Context) (word : String) : Read Node := do
  let place ← get
  keyword word
  let after ← get
  let ahead := after.skipSpaces
  if ahead.next? = some '(' || startsArgument (ahead.offset ≠ after.offset) ahead.rest then
    let _ ← commandArguments nested context
    close place .other []
  else close place .other []

/-- `alias` and `undef`: all up to the end of the statement. -/
def nameChange (word : String) : Read Node := do
  let place ← get
  keyword word
  modify fun cursor =>
    cursor.skipWhile (fun char => !(isLineEnd char || char = ';' || char = '#')) cursor.limit
  close place .other []

/-- `BEGIN` and `END` blocks. -/
def outerBlock (nested : Nested) (word : String) : Read Node := do
  let place ← get
  keyword word
  spaces
  let _ ← braceBlock nested
  close place .other []

/-- Statements in parentheses. -/
def parenthesized (nested : Nested) : Read Node := do
  let place ← get
  skip 1
  let statements ← nested.statements
  let comments ← separators
  expect ")"
  close place .parenthesized (statements ++ comments)

end Read

end RouteTable.Source
