/-
**Plain scalars.**

A scalar without quotes ends at a comment, at a colon before a blank, and within brackets at their
marks. It may go on over lines that are indented more than the block around it.
-/

import RouteTable.Yaml.Token

namespace RouteTable.Yaml

/-- Whether a character is a bracket or a comma. -/
def isFlowMark (char : Char) : Bool :=
  char = ',' || char = '[' || char = ']' || char = '\x7b' || char = '\x7d'

/-- The characters of a plain scalar up to a blank or its end. -/
def plainRun (inFlow : Bool) : List Char → List Char
  | [] => []
  | char :: rest =>
    let next := rest.head?
    let colon := char = ':' && (endsWord next || (inFlow && next.any isFlowMark))
    if endsWord (some char) || colon || (inFlow && (isFlowMark char || char = '?')) then []
    else char :: plainRun inFlow rest

namespace Lex

/-- Passes the blanks at the start of a line and further breaks; nothing if a document mark comes. -/
def plainBreaks : Nat → List Char → Lex (Option (List Char))
  | 0, found => return some found
  | fuel + 1, found => do
    match ← peek 0 with
    | some ' ' =>
      skip 1
      plainBreaks fuel found
    | some char =>
      if isBreak char then
        let more ← lineBreak
        if (← get).startsDocumentMark then return none
        else plainBreaks fuel (found ++ more)
      else return some found
    | none => return some found

/-- The blanks between two runs of a plain scalar; nothing if the scalar ends at a document mark. -/
def plainBlanks : Lex (List Char) := do
  let blanks ← takeWhile (· = ' ')
  let first ← lineBreak
  if first.isEmpty then return blanks
  else
    modify fun lexer => { lexer with mayOpenKey := true }
    if (← get).startsDocumentMark then return []
    match ← plainBreaks (← get).limit [] with
    | none => return []
    | some others =>
      if first ≠ ['\n'] then return first ++ others
      else if others.isEmpty then return [' ']
      else return others

/-- The runs of a plain scalar with the blanks between them. -/
def plainParts (indent : Int) : Nat → List Char → List Char → Lex (List Char)
  | 0, found, _ => return found
  | fuel + 1, found, blanks => do
    let here ← get
    let inFlow := here.flow ≠ 0
    let run := if here.rest.head? = some '#' then [] else plainRun inFlow here.rest
    if run.isEmpty then return found
    else
      modify fun lexer => { lexer.skip run.length with mayOpenKey := false }
      let found := found ++ blanks ++ run
      let blanks ← plainBlanks
      let after ← get
      if blanks.isEmpty || after.rest.head? = some '#' ||
          (!inFlow && (after.column : Int) < indent) then return found
      else plainParts indent fuel found blanks

/-- A plain scalar. -/
def plainScalar : Lex Token := do
  let here ← get
  let content ← plainParts (here.indent + 1) here.limit [] []
  return .scalar (String.ofList content) true

end Lex

end RouteTable.Yaml
