/-
**Arguments, hashes and arrays.**

An argument is an expression, a pair (`key => value`, `key: value`, `"key": value`), a splat or a
block argument. Arguments stand in parentheses, in brackets, in braces, or after the name of a
method on the same line.
-/

import RouteTable.Source.Literal

namespace RouteTable.Source

/-- What an expression may take in: a `do` block, arguments without parentheses, a bar as operator. -/
structure Context where
  doBlocks : Bool := true
  commands : Bool := true
  pipes : Bool := true

/-- The readers of the parts of a construct. An expression is read down to a level: 0 takes in
everything, 1 leaves out `and`, `or` and `not`, 3 assignments too, from 6 on the operators of a
lower precedence, and 17 all operators of two places. -/
structure Nested where
  statements : Read (List Node)
  expression : Nat → Context → Read Node

/-- The level of an argument. -/
def argumentLevel : Nat := 1

/-- The level of an operand that is no assignment. -/
def ternaryLevel : Nat := 3

/-- The level of a single operand. -/
def operandLevel : Nat := 17

/-- Whether an argument without parentheses begins after a name; `spaced` says that a blank
separates them. -/
def startsArgument (spaced : Bool) (text : List Char) : Bool :=
  let tight (rest : List Char) : Bool :=
    match rest with
    | after :: _ => !(isSpace after || isLineEnd after)
    | [] => false
  match text with
  | '"' :: _ | '\'' :: _ => true
  | ':' :: ':' :: after :: _ => spaced && isWordStart after
  | ':' :: after :: rest => spaced &&
      (after = '"' || after = '\'' || 0 < Read.symbolLength (after :: rest))
  | '-' :: '>' :: _ => spaced
  | '&' :: '&' :: _ | '&' :: '.' :: _ => false
  | '*' :: '*' :: rest => spaced && tight rest && rest.head? ≠ some '='
  | '!' :: '=' :: _ | '!' :: '~' :: _ => false
  | '?' :: after :: rest =>
    spaced && tight [after] && !(rest.head?.any isWordChar)
  | '<' :: '<' :: _ => spaced && (Read.heredocOf? text).isSome
  | '(' :: _ | '[' :: _ | '@' :: _ | '$' :: _ | '\x60' :: _ | '!' :: _ | '~' :: _ => spaced
  | '%' :: _ => spaced && startsPercent text
  | mark :: rest =>
    if mark = '-' || mark = '+' || mark = '*' || mark = '&' || mark = '/' then
      spaced && tight rest && rest.head? ≠ some '='
    else if isWordStart mark then
      spaced && ((labelLength? text).isSome || !startsAnyKeyword nonArgumentWords text)
    else spaced && mark.isDigit
  | [] => false

/-- Whether the text ends here or goes on with a mark that ends a list of arguments. -/
def endsArgument (text : List Char) : Bool :=
  match text with
  | [] => true
  | mark :: _ => mark = ',' || mark = ')' || mark = ']' || mark = '\x7d' || mark = ';'

namespace Read

/-- The value of a label, on the same line or the next one; a label may stand without a value. -/
def labelValue (nested : Nested) (context : Context) : Read (Option Node) := do
  let here ← get
  let ahead := here.skipLines
  if endsArgument ahead.rest || startsAnyKeyword closingWords ahead.rest then return none
  else
    set ahead
    return some (← nested.expression argumentLevel context)

/-- A label and its value. -/
def labelPair (nested : Nested) (context : Context) (length : Nat) : Read Node := do
  let place ← get
  skip length
  let key ← close place .hashKeySymbol []
  skip 1
  let before ← get
  match ← labelValue nested context with
  | some value => close place .pair [key.inField .key, value.inField .value]
  | none =>
    set before
    close place .pair [key.inField .key]

/-- A quoted label and its value. -/
def quotedPair (nested : Nested) (context : Context) : Read Node := do
  let place ← get
  let key ← quotedBy nested.statements .string (place.next? = some '"')
  match (← get).rest with
  | ':' :: ':' :: _ => failure
  | ':' :: _ =>
    skip 1
    match ← labelValue nested context with
    | some value => close place .pair [key.inField .key, value.inField .value]
    | none => close place .pair [key.inField .key]
  | _ => failure

/-- An expression, or a pair if an arrow follows it. -/
def plainArgument (nested : Nested) (context : Context) : Read Node := do
  let first ← nested.expression argumentLevel context
  let ahead := (← get).skipSpaces
  if ahead.startsWith "=>" then
    set ahead
    skip 2
    lines
    let value ← nested.expression argumentLevel context
    closeFrom first .pair [first.inField .key, value.inField .value]
  else return first

/-- A splat or a block argument after its mark; the expression may be missing. -/
def markedArgument (nested : Nested) (context : Context) (mark : String) (kind : Kind) :
    Read Node := do
  let place ← get
  expect mark
  let after ← get
  if endsArgument after.skipSpaces.rest || isLineEnd (after.skipSpaces.next?.getD '\n') then
    close place kind []
  else
    let _ ← nested.expression ternaryLevel context
    close place kind []

/-- An argument. -/
def argument (nested : Nested) (context : Context) : Read Node := do
  let here ← get
  match here.rest with
  | '*' :: '*' :: _ => markedArgument nested context "**" .hashSplatArgument
  | '*' :: _ => markedArgument nested context "*" .splatArgument
  | '&' :: _ => markedArgument nested context "&" .blockArgument
  | '.' :: '.' :: '.' :: after =>
    if endsArgument after then
      skip 3
      close here .other []
    else plainArgument nested context
  | '"' :: _ | '\'' :: _ => quotedPair nested context <|> plainArgument nested context
  | text =>
    match labelLength? text with
    | some length => labelPair nested context length
    | none => plainArgument nested context

/-- The arguments up to a closing mark, which is passed; a comma may stand after the last one. The
comments and text blocks between them stand among the arguments. -/
def argumentsUntil (nested : Nested) (closing : Char) : Nat → List Node → Read (List Node)
  | 0, _ => failure
  | fuel + 1, found => do
    let found := (← passed false).reverse ++ found
    if (← get).next? = some closing then
      skip 1
      return found.reverse
    else
      let next ← argument nested {}
      let found := (← passed false).reverse ++ next :: found
      match (← get).next? with
      | some ',' =>
        skip 1
        argumentsUntil nested closing fuel found
      | some mark =>
        if mark = closing then
          skip 1
          return found.reverse
        else failure
      | none => failure

/-- The arguments in brackets after the opening one. -/
def bracketed (nested : Nested) (closing : Char) : Read (List Node) := do
  argumentsUntil nested closing (← get).limit []

/-- The arguments of a call in parentheses. -/
def parenthesizedArguments (nested : Nested) : Read Node := do
  let place ← get
  skip 1
  close place .argumentList (← bracketed nested ')')

/-- The arguments on the line of a call, separated by commas; a line may end after a comma. -/
def lineArguments (nested : Nested) (context : Context) : Nat → List Node → Read (List Node)
  | 0, _ => failure
  | fuel + 1, found => do
    let next ← argument nested context
    let ahead := (← get).skipSpaces
    if ahead.next? = some ',' then
      set ahead
      skip 1
      lineArguments nested context fuel ((← passed false).reverse ++ next :: found)
    else return (next :: found).reverse

/-- The arguments of a call without parentheses. A `do` after them belongs to the call. -/
def commandArguments (nested : Nested) (context : Context) : Read Node := do
  spaces
  let place ← get
  let inner : Context := { context with doBlocks := false, commands := true }
  close place .argumentList (← lineArguments nested inner place.limit [])

/-- An array. -/
def array (nested : Nested) : Read Node := do
  let place ← get
  skip 1
  close place .array (← bracketed nested ']')

/-- A hash. -/
def hash (nested : Nested) : Read Node := do
  let place ← get
  skip 1
  close place .hash (← bracketed nested '\x7d')

end Read

end RouteTable.Source
