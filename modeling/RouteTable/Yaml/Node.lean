/-
**Nodes of a YAML document.**

A node is a scalar, a sequence or a mapping with a tag. An alias is replaced by the node of its
anchor; within that node itself it is `unfinished`.
-/

import RouteTable.Assoc
import RouteTable.Yaml.PlainType
import RouteTable.Yaml.Stream

namespace RouteTable.Yaml

/-- A node of a document. -/
inductive Node
  | scalar (tag : Tag) (content : String)
  | sequence (tag : Tag) (items : List Node)
  | mapping (tag : Tag) (entries : List (Node × Node))
  | unfinished
deriving Repr, Inhabited

/-- The anchors of a document and what the handles of its tags stand for. -/
structure Names where
  anchors : Assoc String Node := []
  handles : Assoc String String := [("!", "!"), ("!!", tagStart)]

/-- The reading of a document. -/
abbrev Compose (α : Type) : Type := StateT Names Lex α

/-- An anchor and a tag in front of a node. -/
structure Properties where
  anchor : Option String := none
  tag : Option String := none

/-- Where a node stands: a block collection may begin, and a list without indentation. -/
structure Position where
  block : Bool := true
  unindented : Bool := false

namespace Compose

/-- The next token. -/
def peek : Compose Token := fun names => do return (← Lex.peekToken, names)

/-- Takes the next token. -/
def take : Compose Token := fun names => do return (← Lex.takeToken, names)

/-- Takes the next token if it is the given one. -/
def accept (wanted : Token) : Compose Bool := fun names => do
  return (← Lex.acceptToken wanted, names)

/-- Gives up. -/
def fail {α : Type} (fault : Fault) : Compose α := fun _ => Lex.fail fault

/-- Takes a token that must come next. -/
def expect (wanted : Token) : Compose Unit := do
  if !(← accept wanted) then fail .badStructure

/-- Whether the next token is one of several. -/
def isNext (tokens : List Token) : Compose Bool := do return tokens.contains (← peek)

/-- The anchor that comes next. -/
def anchor? : Compose (Option String) := do
  match ← peek with
  | .anchor name =>
    let _ ← take
    return some name
  | _ => return none

/-- The tag that comes next. -/
def tag? : Compose (Option WrittenTag) := do
  match ← peek with
  | .tag tag =>
    let _ ← take
    return some tag
  | _ => return none

/-- The name of a tag. -/
def fullTag (tag : WrittenTag) : Compose String := do
  match tag.handle with
  | none => return tag.suffix
  | some handle =>
    match (← get).handles.get? handle with
    | some start => return start ++ tag.suffix
    | none => fail .badStructure

/-- The anchor and the tag in front of a node, in either order. -/
def properties : Compose Properties := do
  let first ← anchor?
  let tag ← tag?
  let anchor ← match first, tag with
    | none, some _ => anchor?
    | _, _ => pure first
  let tag ← match tag with
    | some tag => do pure (some (← fullTag tag))
    | none => pure none
  return ⟨anchor, tag⟩

/-- Refuses an anchor that the document already has. -/
def checkAnchor (properties : Properties) : Compose Unit := do
  match properties.anchor with
  | some name => if (← get).anchors.contains name then fail .badReference
  | none => pure ()

/-- Gives an anchor its node. -/
def register (properties : Properties) (node : Node) : Compose Unit :=
  match properties.anchor with
  | some name => modify fun names => { names with anchors := names.anchors.put name node }
  | none => pure ()

/-- The tag of a collection. -/
def collectionTag (properties : Properties) (default : Tag) : Tag :=
  match properties.tag with
  | none | some "!" => default
  | some name => .ofName name

/-- The tag of a scalar. -/
def scalarTag (properties : Properties) (content : String) (plain : Bool) : Tag :=
  match properties.tag with
  | none => if plain then typeOf content else .text
  | some "!" => typeOf content
  | some name => .ofName name

/-- An empty scalar. -/
def empty : Node := .scalar .null ""

/-- A node, or an empty scalar if one of several tokens comes next. -/
def unlessNext (tokens : List Token) (node : Compose Node) : Compose Node := do
  if ← isNext tokens then return empty else node

section Collections

variable (node : Position → Compose Node)

/-- The items of a block sequence; without an indentation of its own it has no end mark. -/
def entries (unindented : Bool) : Nat → List Node → Compose (List Node)
  | 0, _ => fail .badStructure
  | fuel + 1, found => do
    if ← accept .entry then
      let ends : List Token :=
        if unindented then [.entry, .key, .value, .blockEnd] else [.entry, .blockEnd]
      entries unindented fuel ((← unlessNext ends (node {})) :: found)
    else
      if !unindented then expect .blockEnd
      return found.reverse

/-- The pairs of a block mapping. -/
def pairs : Nat → List (Node × Node) → Compose (List (Node × Node))
  | 0, _ => fail .badStructure
  | fuel + 1, found => do
    let ends : List Token := [.key, .value, .blockEnd]
    if ← accept .key then
      let key ← unlessNext ends (node { unindented := true })
      let value ← if ← accept .value then unlessNext ends (node { unindented := true })
        else pure empty
      pairs fuel ((key, value) :: found)
    else
      expect .blockEnd
      return found.reverse

/-- The value of a pair between brackets, if there is one. -/
def flowValue (closing : Token) : Compose Node := do
  if ← accept .value then unlessNext [.flowEntry, closing] (node { block := false })
  else return empty

/-- The key of a pair between brackets, after its mark. -/
def flowKey (closing : Token) : Compose Node :=
  unlessNext [.value, .flowEntry, closing] (node { block := false })

/-- Passes the comma between two items. -/
def separator (first : Bool) : Compose Unit := do
  if !first then expect .flowEntry

/-- The items of a sequence between brackets; a pair among them is a mapping of its own. -/
def flowItems : Nat → List Node → Compose (List Node)
  | 0, _ => fail .badStructure
  | fuel + 1, found => do
    let closing := Token.flowSequenceEnd
    if ← accept closing then return found.reverse
    else
      separator found.isEmpty
      if ← accept closing then return found.reverse
      else if ← accept .key then
        let key ← flowKey node closing
        let value ← flowValue node closing
        flowItems fuel (.mapping .mapping [(key, value)] :: found)
      else flowItems fuel ((← node { block := false }) :: found)

/-- The pairs of a mapping between braces; a key may stand alone. -/
def flowPairs : Nat → List (Node × Node) → Compose (List (Node × Node))
  | 0, _ => fail .badStructure
  | fuel + 1, found => do
    let closing := Token.flowMappingEnd
    if ← accept closing then return found.reverse
    else
      separator found.isEmpty
      if ← accept closing then return found.reverse
      else if ← accept .key then
        let key ← flowKey node closing
        let value ← flowValue node closing
        flowPairs fuel ((key, value) :: found)
      else flowPairs fuel ((← node { block := false }, empty) :: found)

/-- A collection, whose anchor may be named inside it. -/
def collection (properties : Properties) (content : Compose Node) : Compose Node := do
  checkAnchor properties
  register properties .unfinished
  let found ← content
  register properties found
  return found

/-- A node. -/
def nodeWith (limit : Nat) (position : Position) : Compose Node := do
  match ← peek with
  | .alias name =>
    let _ ← take
    match (← get).anchors.get? name with
    | some found => return found
    | none => fail .badReference
  | _ =>
    let properties ← properties
    let sequence (items : Compose (List Node)) : Compose Node :=
      collection properties do
        return .sequence (collectionTag properties .sequence) (← items)
    let mapping (pairs : Compose (List (Node × Node))) : Compose Node :=
      collection properties do
        return .mapping (collectionTag properties .mapping) (← pairs)
    let scalar (content : String) (plain : Bool) : Compose Node := do
      checkAnchor properties
      let found := Node.scalar (scalarTag properties content plain) content
      register properties found
      return found
    let next ← peek
    match next with
    | .scalar content plain =>
      let _ ← take
      scalar content plain
    | .flowSequenceStart => sequence (do
        let _ ← take
        flowItems node limit [])
    | .flowMappingStart => mapping (do
        let _ ← take
        flowPairs node limit [])
    | _ =>
      if position.unindented && next = .entry then sequence (entries node true limit [])
      else if position.block && next = .sequenceStart then sequence (do
        let _ ← take
        entries node false limit [])
      else if position.block && next = .mappingStart then mapping (do
        let _ ← take
        pairs node limit [])
      else if properties.anchor.isSome || properties.tag.isSome then scalar "" true
      else fail .badStructure

end Collections

/-- A node, at most `depth` levels deep. -/
def nodeAt (limit : Nat) : Nat → Position → Compose Node
  | 0, _ => fail .badStructure
  | depth + 1, position => nodeWith (nodeAt limit depth) limit position

/-- The directives before a document; each may come once. -/
def directives : Nat → Bool → Assoc String String → Compose (Assoc String String)
  | 0, _, handles => return handles
  | fuel + 1, versioned, handles => do
    match ← peek with
    | .directive directive =>
      let _ ← take
      match directive with
      | .version major =>
        if versioned || major ≠ 1 then fail .badStructure
        directives fuel true handles
      | .tag handle start =>
        if handles.contains handle then fail .badStructure
        directives fuel versioned (handles.put handle start)
      | .reserved => directives fuel versioned handles
    | _ => return handles

/-- The head of a document with its directives and its mark. -/
def documentHead (limit : Nat) : Compose Unit := do
  let handles ← directives limit false []
  let defaults := ({} : Names).handles.filter fun entry => !handles.contains entry.1
  set ({ handles := handles ++ defaults } : Names)
  expect .documentStart

/-- Passes the marks at the end of a document. -/
def documentEnds : Nat → Compose Unit
  | 0 => return ()
  | fuel + 1 => do
    if ← accept .documentEnd then documentEnds fuel

/-- The only document of a text, if it has one. -/
def document (limit : Nat) : Compose (Option Node) := do
  let next ← peek
  let marked := match next with
    | .directive _ | .documentStart => true
    | _ => false
  if next = .streamEnd then return none
  else
    if marked then documentHead limit
    let after ← peek
    let ended := match after with
      | .directive _ | .documentStart | .documentEnd | .streamEnd => marked
      | _ => false
    let found ← if ended then pure empty else nodeAt limit limit {}
    documentEnds limit
    if ← isNext [.streamEnd] then return some found
    else
      documentHead limit
      fail .badReference

end Compose

/-- Whether a character may stand in a text. -/
def isAllowed (char : Char) : Bool :=
  let code := char.toNat
  code = 9 || code = 10 || code = 13 || (0x20 ≤ code && code ≤ 0x7E) || code = 0x85 ||
    (0xA0 ≤ code && code ≤ 0xFFFD) || 0x10000 ≤ code

/-- The node of the only document of a text, if it has one. -/
def Node.ofText? (text : String) : Except Fault (Option Node) :=
  if text.toList.all isAllowed then
    let lexer := Lexer.ofText text
    match (Compose.document lexer.limit).run {} |>.run lexer with
    | .ok ((node, _), _) => .ok node
    | .error fault => .error fault
  else .error .unprintable

end RouteTable.Yaml
