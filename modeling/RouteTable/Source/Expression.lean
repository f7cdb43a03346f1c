/-
**Expressions and statements.**

An expression is a row of operands with operators between them, read by precedence. A statement is
an expression with the modifiers after it. The readers of expressions and statements call each
other; each call within another is one level deeper, and the depth is bounded by twice the length
of the text.
-/

import RouteTable.Source.Operand

namespace RouteTable.Source

namespace Read

/-- An operand with the operator of one place in front of it. -/
def signed (nested : Nested) (context : Context) : Read Node := do
  let place ← get
  let applied (mark : String) (level : Nat) : Read Node := do
    expect mark
    lines
    let _ ← nested.expression level context
    close place .other []
  match place.rest with
  | '-' :: '>' :: _ => operand nested context
  | '!' :: _ => applied "!" operandLevel
  | '~' :: _ => applied "~" operandLevel
  | '+' :: _ => applied "+" operandLevel
  | '-' :: _ => if startsNegative place.rest then operand nested context else applied "-" 16
  | '.' :: '.' :: '.' :: _ => applied "..." 7
  | '.' :: '.' :: _ => applied ".." 7
  | text =>
    if markedWordOf text = "defined?".toList && (labelLength? text).isNone then
      applied "defined?" operandLevel
    else if startsKeyword "not" text then applied "not" operandLevel
    else operand nested context

/-- Whether an assignment may have a node on its left. -/
def isAssignable (node : Node) : Bool :=
  match node.kind with
  | .identifier | .constant | .scopeResolution | .other => true
  | .call => !hasBlock node
  | _ => false

/-- The value of an assignment, with a `rescue` after it. -/
def assigned (nested : Nested) (context : Context) : Read Unit := do
  lines
  let _ ← nested.expression argumentLevel { context with commands := true }
  let ahead := (← get).skipSpaces
  if startsKeyword "rescue" ahead.rest then
    set ahead
    keyword "rescue"
    spaces
    let _ ← nested.expression argumentLevel context

/-- The operands and operators after an operand, down to a level of precedence. -/
def operated (nested : Nested) (context : Context) (level : Nat) : Nat → Node → Read Node
  | 0, _ => failure
  | fuel + 1, left => do
    let right : Context := { context with commands := false }
    let ahead := (← get).skipSpaces
    match assignmentLength? ahead.rest with
    | some length =>
      if argumentLevel < level || !isAssignable left then return left
      else
        set ahead
        skip length
        assigned nested context
        closeFrom left .other []
    | none =>
      if ahead.next? = some '?' && level ≤ ternaryLevel then
        set ahead
        skip 1
        lines
        let _ ← nested.expression ternaryLevel right
        lines
        expect ":"
        lines
        let _ ← nested.expression ternaryLevel right
        operated nested context level fuel (← closeFrom left .other [])
      else match operatorOf? ahead.rest with
        | none => return left
        | some (mark, precedence) =>
          let barred := precedence < level || (mark = "|" && !context.pipes) ||
            ahead.startsWith "&." || ahead.startsWith "=>"
          if barred then return left
          else
            set ahead
            skip mark.length
            let after ← get
            let ranges := mark = ".." || mark = "..."
            let next := after.skipSpaces
            if ranges && (endsArgument next.rest || next.next? = some '\n' ||
                startsAnyKeyword nonArgumentWords next.rest) then
              operated nested context level fuel (← closeFrom left .other [])
            else
              lines
              let above := if mark = "**" then precedence else precedence + 1
              let _ ← nested.expression above right
              operated nested context level fuel (← closeFrom left .other [])

/-- An expression down to a level. -/
def expressionWith (nested : Nested) (level : Nat) (context : Context) : Read Node := do
  let limit := (← get).limit
  if 0 < level then
    operated nested context level limit (← signed nested context)
  else
    let place ← get
    let first ←
      if startsKeyword "not" place.rest then
        keyword "not"
        spaces
        let _ ← nested.expression argumentLevel context
        close place .other []
      else nested.expression argumentLevel context
    let ahead := (← get).skipSpaces
    if startsAnyKeyword ["and", "or"] ahead.rest then
      set ahead
      skip (wordOf ahead.rest).length
      lines
      let _ ← nested.expression 0 context
      closeFrom first .other []
    else return first

/-- The modifiers after a statement. -/
def modified (nested : Nested) : Nat → Node → Read Node
  | 0, _ => failure
  | fuel + 1, node => do
    let ahead := (← get).skipSpaces
    let wrapped (word : String) (kind : Kind) : Read Node := do
      set ahead
      keyword word
      lines
      let _ ← nested.expression 0 {}
      closeFrom node kind [node.inField .body]
    if startsKeyword "if" ahead.rest then
      modified nested fuel (← wrapped "if" .ifModifier)
    else if startsKeyword "unless" ahead.rest then
      modified nested fuel (← wrapped "unless" .unlessModifier)
    else if startsKeyword "while" ahead.rest then
      modified nested fuel (← wrapped "while" .other)
    else if startsKeyword "until" ahead.rest then
      modified nested fuel (← wrapped "until" .other)
    else if startsKeyword "rescue" ahead.rest then
      modified nested fuel (← wrapped "rescue" .other)
    else return node

/-- The further targets or values of an assignment to several names. -/
def severalTargets (nested : Nested) : Nat → Bool → Read Bool
  | 0, _ => failure
  | fuel + 1, found => do
    let ahead := (← get).skipSpaces
    if ahead.next? = some ',' then
      set ahead
      skip 1
      spaces
      let _ ← accept "*"
      let _ ← nested.expression argumentLevel {}
      severalTargets nested fuel true
    else return found

/-- A statement. -/
def statement (nested : Nested) : Read Node := do
  let place ← get
  let splat ← accept "*"
  let first ← nested.expression 0 {}
  let limit := place.limit
  let several ← severalTargets nested limit false
  let whole ← if several || splat then close place .other [] else pure first
  let ahead := (← get).skipSpaces
  if (several || splat) && startsEquals ahead.rest then
    set ahead
    skip 1
    assigned nested {}
    let _ ← severalTargets nested limit false
    modified nested limit (← close place .other [])
  else modified nested limit whole

/-- Whether a list of statements ends here. -/
def endsStatements (text : List Char) : Bool :=
  match text with
  | [] => true
  | mark :: _ =>
    mark = '\x7d' || mark = ')' || mark = ']' || startsAnyKeyword closingWords text

/-- Whether a statement ends here. -/
def endsStatement (text : List Char) : Bool :=
  match text with
  | mark :: _ => isLineEnd mark || mark = ';' || mark = '#' || endsStatements text
  | [] => true

/-- Passes the rest of a line that cannot be read. -/
def passLine : Read Node := do
  let place ← get
  skip 1
  modify Cursor.skipLine
  modify fun cursor => { cursor with damaged := true }
  close place .broken []

/-- Whether the text of the program ends here although more text follows. -/
def endsProgram (text : List Char) : Bool :=
  wordOf text = "__END__".toList &&
    ((text.drop 7).head? = some '\n' || (text.drop 7).head? = some '\r')

/-- The statements up to a closing mark or word. -/
def statementsLoop (nested : Nested) : Nat → List Node → Read (List Node)
  | 0, found => return found.reverse
  | fuel + 1, found => do
    let comments ← separators
    let found := comments.reverse ++ found
    let here ← get
    if endsProgram here.rest then
      set { here with rest := [] }
      return found.reverse
    else if endsStatements here.rest then return found.reverse
    else
      let next ← (do
        let node ← statement nested
        if endsStatement (← get).skipSpaces.rest then return node else failure) <|> passLine
      let loose := (← get).loose
      modify fun cursor => { cursor with loose := [] }
      statementsLoop nested fuel (loose.reverse ++ next :: found)

mutual

/-- An expression, at most `depth` levels deep. -/
def expressionAt : Nat → Nat → Context → Read Node
  | 0, _, _ => failure
  | depth + 1, level, context =>
    expressionWith ⟨statementsAt depth, expressionAt depth⟩ level context

/-- A list of statements, at most `depth` levels deep. -/
def statementsAt : Nat → Read (List Node)
  | 0 => failure
  | depth + 1 => fun cursor =>
    statementsLoop ⟨statementsAt depth, expressionAt depth⟩ cursor.limit [] cursor

end

/-- The statements of a whole text; closing marks and words without an opening are passed. -/
def program (depth : Nat) : Nat → List Node → Read (List Node)
  | 0, found => return found
  | fuel + 1, found => do
    let statements ← statementsAt depth
    let found := found ++ statements
    if (← get).rest.isEmpty then return found
    else program depth fuel (found ++ [← passLine])

end Read

end RouteTable.Source
