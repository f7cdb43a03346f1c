/-
**Quoted scalars.**

Between single quotes a quote is written twice; between double quotes a backslash begins an
escape. A break of lines inside the quotes is a space, and `n` empty lines after it are `n` breaks.

* `escapes_distinct`: no two escapes have the same letter.
-/

import RouteTable.Yaml.Token

namespace RouteTable.Yaml

/-- The escapes of one letter. -/
def escapes : List (Char × Nat) :=
  [ ('0', 0x0), ('a', 0x7), ('b', 0x8), ('t', 0x9), ('\t', 0x9), ('n', 0xA), ('v', 0xB), ('f', 0xC),
    ('r', 0xD), ('e', 0x1B), (' ', 0x20), ('"', 0x22), ('\\', 0x5C), ('/', 0x2F), ('N', 0x85),
    ('_', 0xA0), ('L', 0x2028), ('P', 0x2029) ]

/-- The escapes that name a code point, with the number of their digits. -/
def codeEscapes : List (Char × Nat) := [('x', 2), ('u', 4), ('U', 8)]

theorem escapes_distinct : (escapes.map Prod.fst).Nodup := by decide

namespace Lex

/-- Passes the empty lines after a break inside quotes. -/
def quotedBreaks : Nat → List Char → Lex (List Char)
  | 0, found => return found
  | fuel + 1, found => do
    if (← get).startsDocumentMark then fail .badToken
    let _ ← takeWhile fun char => char = ' ' || char = '\t'
    match ← lineBreak with
    | [] => return found
    | char => quotedBreaks fuel (found ++ char)

/-- The blanks inside quotes, with the breaks of lines among them. -/
def quotedBlanks : Lex (List Char) := do
  let blanks ← takeWhile fun char => char = ' ' || char = '\t'
  match ← peek 0 with
  | none => fail .badToken
  | some char =>
    if isBreak char then
      let first ← lineBreak
      let others ← quotedBreaks (← get).limit []
      if first ≠ ['\n'] then return first ++ others
      else if others.isEmpty then return [' ']
      else return others
    else return blanks

/-- An escape, after its backslash. -/
def escape : Lex (List Char) := do
  match ← peek 0 with
  | none => fail .badToken
  | some letter =>
    match escapes.find? (·.1 = letter), codeEscapes.find? (·.1 = letter) with
    | some (_, code), _ =>
      skip 1
      return [Char.ofNat code]
    | none, some (_, count) =>
      skip 1
      let digits := (← get).rest.take count
      match Text.Hex.ofDigits? 0 digits with
      | some code =>
        if digits.length < count then fail .badToken
        skip count
        return [if code.isValidChar then Char.ofNat code else Char.ofNat 0xFFFD]
      | none => fail .badToken
    | none, none =>
      if isBreak letter then
        let _ ← lineBreak
        quotedBreaks (← get).limit []
      else fail .badToken

/-- The characters inside quotes up to a blank or the closing quote. -/
def quotedRun (double : Bool) : Nat → List Char → Lex (List Char)
  | 0, found => return found
  | fuel + 1, found => do
    let plain ← takeWhile fun char =>
      !(char = '\'' || char = '"' || char = '\\' || endsWord (some char))
    let found := found ++ plain
    match ← peek 0 with
    | some '\'' =>
      if double then
        skip 1
        quotedRun double fuel (found ++ ['\''])
      else if (← peek 1) = some '\'' then
        skip 2
        quotedRun double fuel (found ++ ['\''])
      else return found
    | some '"' =>
      if double then return found
      else
        skip 1
        quotedRun double fuel (found ++ ['"'])
    | some '\\' =>
      skip 1
      if double then quotedRun double fuel (found ++ (← escape))
      else quotedRun double fuel (found ++ ['\\'])
    | _ => return found

/-- The runs and blanks up to the closing quote, which is passed. -/
def quotedParts (quote : Char) : Nat → List Char → Lex (List Char)
  | 0, _ => fail .badToken
  | fuel + 1, found => do
    if (← peek 0) = some quote then
      skip 1
      return found
    else
      let blanks ← quotedBlanks
      let run ← quotedRun (quote = '"') (← get).limit []
      quotedParts quote fuel (found ++ blanks ++ run)

/-- A quoted scalar. -/
def quotedScalar (quote : Char) : Lex Token := do
  skip 1
  let limit := (← get).limit
  let first ← quotedRun (quote = '"') limit []
  let content ← quotedParts quote limit first
  return .scalar (String.ofList content) false

end Lex

end RouteTable.Yaml
