/-
**Anchors, tags and directives.**

An anchor gives a name to a node and an alias stands for the node of its name. A tag says what
kind of value a node has. A directive stands alone on a line before a document.
-/

import RouteTable.Text.Utf8
import RouteTable.Yaml.Token

namespace RouteTable.Yaml

/-- Whether a character may stand in a name. -/
def isNameChar (char : Char) : Bool := char.isAlphanum || char = '-' || char = '_'

/-- Whether a character may stand in a tag. -/
def isTagChar (char : Char) : Bool :=
  char.isAlphanum || "-;/?:@&=+$,_.!~*'()[]".toList.contains char

/-- Whether a name may end before what follows. -/
def mayFollowName : Option Char → Bool
  | some char => endsWord (some char) || "?:,]\x7d%@\x60".toList.contains char
  | none => true

namespace Lex

/-- A name after the mark of an anchor or an alias. -/
def markedName : Lex String := do
  skip 1
  let name ← takeWhile isNameChar
  if name.isEmpty then fail .badToken
  if mayFollowName (← peek 0) then return String.ofList name else fail .badToken

/-- The bytes that are written with percent signs. -/
def percentBytes : Nat → List Nat → Lex (List Nat)
  | 0, found => return found
  | fuel + 1, found => do
    if (← peek 0) = some '%' then
      skip 1
      let digits := (← get).rest.take 2
      match Text.Hex.ofDigits? 0 digits with
      | some byte =>
        if digits.length < 2 then fail .badToken
        skip 2
        percentBytes fuel (found ++ [byte])
      | none => fail .badToken
    else return found

/-- The characters of a tag. -/
def tagText : Nat → List Char → Lex (List Char)
  | 0, found => return found
  | fuel + 1, found => do
    let plain ← takeWhile isTagChar
    let found := found ++ plain
    if (← peek 0) = some '%' then
      let bytes ← percentBytes (← get).limit []
      match Text.Utf8.decode ⟨(bytes.map UInt8.ofNat).toArray⟩ with
      | .ok text => tagText fuel (found ++ text.toList)
      | .error _ => fail .badToken
    else return found

/-- The characters of a tag, of which there is at least one. -/
def someTagText : Lex String := do
  let text ← tagText (← get).limit []
  if text.isEmpty then fail .badToken
  return String.ofList text

/-- The handle of a tag: an exclamation mark, or a name between two of them. -/
def tagHandle : Lex String := do
  if (← peek 0) ≠ some '!' then fail .badToken
  skip 1
  if (← peek 0) = some ' ' then return "!"
  let name ← takeWhile isNameChar
  if (← peek 0) = some '!' then
    skip 1
    return String.ofList ('!' :: (name ++ ['!']))
  else fail .badToken

/-- A tag. -/
def tag : Lex Token := do
  let written ← (do
    match ← peek 1 with
    | some '<' =>
      skip 2
      let suffix ← someTagText
      if (← peek 0) ≠ some '>' then fail .badToken
      skip 1
      return ⟨none, suffix⟩
    | next =>
      if endsWord next then
        skip 1
        return ⟨none, "!"⟩
      else
        let word := ((← get).rest.drop 1).takeWhile fun char => !(char = ' ' || isBreak char)
        if word.contains '!' then
          let handle ← tagHandle
          return ⟨some handle, ← someTagText⟩
        else
          skip 1
          return ⟨some "!", ← someTagText⟩ : Lex WrittenTag)
  let next ← peek 0
  if next = some ' ' || endsLine next then return .tag written else fail .badToken

/-- The number of a version. -/
def versionNumber : Lex Nat := do
  let digits ← takeWhile Char.isDigit
  if digits.isEmpty then fail .badToken
  return Numeral.valueOf 10 (digits.map fun digit => digit.toNat - 48)

/-- Fails unless a blank or the end of the line comes next. -/
def wordEnds : Lex Unit := do
  let next ← peek 0
  if !(next = some ' ' || endsLine next) then fail .badToken

/-- The rest of a directive after its name. -/
def directiveBody (name : String) : Lex Directive := do
  let spaces : Lex Unit := do let _ ← takeWhile (· = ' ')
  match name with
  | "YAML" =>
    spaces
    let major ← versionNumber
    if (← peek 0) ≠ some '.' then fail .badToken
    skip 1
    let _ ← versionNumber
    wordEnds
    return .version major
  | "TAG" =>
    spaces
    let handle ← tagHandle
    if (← peek 0) ≠ some ' ' then fail .badToken
    spaces
    let start ← someTagText
    wordEnds
    return .tag handle start
  | _ =>
    let _ ← takeWhile fun char => !isBreak char
    return .reserved

/-- A directive. -/
def directive : Lex Token := do
  skip 1
  let name ← takeWhile isNameChar
  if name.isEmpty then fail .badToken
  wordEnds
  let found ← directiveBody (String.ofList name)
  restOfLine
  return .directive found

end Lex

end RouteTable.Yaml
