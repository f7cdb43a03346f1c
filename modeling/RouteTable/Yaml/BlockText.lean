/-
**Block scalars.**

After `|` the lines of an indented block are kept; after `>` they are folded: a single break
between two lines that do not begin with a blank is a space. A sign after the mark says what
becomes of the breaks at the end, a digit by how much the block is indented.
-/

import RouteTable.Yaml.Token

namespace RouteTable.Yaml

/-- What becomes of the breaks at the end of a block: one is kept, none, or all. -/
inductive Chomping
  | clip
  | strip
  | keep
deriving DecidableEq, Repr

namespace Lex

/-- The sign after the mark of a block. -/
def chomping : Lex (Option Chomping) := do
  match ← peek 0 with
  | some '+' =>
    skip 1
    return some .keep
  | some '-' =>
    skip 1
    return some .strip
  | _ => return none

/-- The digit after the mark of a block. -/
def indentation : Lex (Option Nat) := do
  match ← peek 0 with
  | some char =>
    if char = '0' then fail .badToken
    else if char.isDigit then
      skip 1
      return some (char.toNat - 48)
    else return none
  | none => return none

/-- The sign and the digit after the mark of a block, in either order. -/
def blockMarks : Lex (Chomping × Option Nat) := do
  let sign ← chomping
  let width ← indentation
  let sign ← match sign, width with
    | none, some _ => chomping
    | sign, _ => pure sign
  let next ← peek 0
  if next = some ' ' || endsLine next then return (sign.getD .clip, width) else fail .badToken

/-- Passes the empty lines at the start of a block; the widest indentation counts. -/
def blockStart : Nat → List Char → Nat → Lex (List Char × Nat)
  | 0, found, width => return (found, width)
  | fuel + 1, found, width => do
    match ← peek 0 with
    | some ' ' =>
      skip 1
      blockStart fuel found (max width (← get).column)
    | _ =>
      match ← lineBreak with
      | [] => return (found, width)
      | more => blockStart fuel (found ++ more) width

/-- Passes spaces up to a column. -/
def spacesTo (column : Int) : Nat → Lex Unit
  | 0 => return ()
  | fuel + 1 => do
    if ((← get).column : Int) < column && (← peek 0) = some ' ' then
      skip 1
      spacesTo column fuel

/-- Passes the empty lines after a line of a block. -/
def blockBreaks (column : Int) : Nat → List Char → Lex (List Char)
  | 0, found => return found
  | fuel + 1, found => do
    spacesTo column (← get).limit
    match ← lineBreak with
    | [] => return found
    | more => blockBreaks column fuel (found ++ more)

/-- The lines of a block from a line on; the last break and the breaks after it come apart. -/
def blockLines (folded : Bool) (column : Int) :
    Nat → List Char → List Char → Lex (List Char × List Char × List Char)
  | 0, found, breaks => return (found, [], breaks)
  | fuel + 1, found, breaks => do
    let indented : Lex Bool := do
      return (← get).column = column && (← peek 0).isSome
    let startsBlank : Lex Bool := do
      return (← peek 0) = some ' ' || (← peek 0) = some '\t'
    if !(← indented) then return (found, [], breaks)
    else
      let blank ← startsBlank
      let line ← takeWhile fun char => !isBreak char
      let found := found ++ breaks ++ line
      let last ← lineBreak
      let breaks ← blockBreaks column (← get).limit []
      if ← indented then
        let joined :=
          if folded && last = ['\n'] && !blank && !(← startsBlank) then
            if breaks.isEmpty then [' '] else []
          else last
        blockLines folded column fuel (found ++ joined) breaks
      else return (found, last, breaks)

/-- A block scalar. -/
def blockScalar (folded : Bool) : Lex Token := do
  skip 1
  let (chomping, width) ← blockMarks
  restOfLine
  let here ← get
  let least : Int := max 1 (here.indent + 1)
  let (column, breaks) ← match width with
    | some width =>
      let column := least + width - 1
      pure (column, ← blockBreaks column here.limit [])
    | none =>
      let (breaks, widest) ← blockStart here.limit [] 0
      pure (max least widest, breaks)
  let (content, last, trailing) ← blockLines folded column here.limit [] breaks
  let content := match chomping with
    | .strip => content
    | .clip => content ++ last
    | .keep => content ++ last ++ trailing
  return .scalar (String.ofList content) false

end Lex

end RouteTable.Yaml
