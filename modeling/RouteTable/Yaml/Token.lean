/-
**Tokens of a YAML text.**

The text is cut into tokens on demand: a token is read when it is asked for, so the first fault in
the order of reading is the one that is reported. Indentation opens and closes block collections,
and a place where an implicit key may begin is remembered until its colon or the end of its line.

* `step_rest`: a step leaves one character behind.
-/

import RouteTable.Number.Numeral

namespace RouteTable.Yaml

/-- Why a text has no value. -/
inductive Fault
  | unprintable
  | badToken
  | badStructure
  | badReference
  | badValue
  | badNumeral (fault : NumeralFault)
  | badReal (text : String)
  | emptyNumber
  | unknownTruth
deriving DecidableEq, Repr

/-- A tag as it is written: a handle, which stands for a beginning, and a suffix. -/
structure WrittenTag where
  handle : Option String
  suffix : String
deriving DecidableEq, Repr

/-- A line at the head of a document. -/
inductive Directive
  | version (major : Nat)
  | tag (handle start : String)
  | reserved
deriving DecidableEq, Repr

/-- The parts that a text is made of. -/
inductive Token
  | directive (directive : Directive)
  | documentStart
  | documentEnd
  | streamEnd
  | sequenceStart
  | mappingStart
  | blockEnd
  | flowSequenceStart
  | flowSequenceEnd
  | flowMappingStart
  | flowMappingEnd
  | entry
  | flowEntry
  | key
  | value
  | alias (name : String)
  | anchor (name : String)
  | tag (tag : WrittenTag)
  | scalar (content : String) (plain : Bool)
deriving DecidableEq, Repr, Inhabited

/-- A place where an implicit key may begin; a required one must turn out to be a key. -/
structure KeyPlace where
  flow : Int
  token : Nat
  required : Bool
  index : Nat
  line : Nat
  column : Nat
deriving Repr

/-- The state of the reading: the place in the text, the open indentations (the innermost first),
the number of open flow collections, and the tokens that are read and not yet taken. -/
structure Lexer where
  rest : List Char
  limit : Nat
  index : Nat := 0
  line : Nat := 0
  column : Nat := 0
  flow : Int := 0
  indent : Int := -1
  outer : List Int := []
  mayOpenKey : Bool := true
  keyPlaces : List KeyPlace := []
  queue : List Token := []
  taken : Nat := 0
  finished : Bool := false

/-- A reading that may fail. -/
abbrev Lex (α : Type) : Type := StateT Lexer (Except Fault) α

/-- Whether a character ends a line. -/
def isBreak (char : Char) : Bool :=
  char = '\n' || char = Char.ofNat 0x85 || char = Char.ofNat 0x2028 || char = Char.ofNat 0x2029

/-- Whether a line, or the text, ends. -/
def endsLine : Option Char → Bool
  | none => true
  | some char => isBreak char

/-- Whether a word ends. -/
def endsWord : Option Char → Bool
  | none => true
  | some char => char = ' ' || char = '\t' || isBreak char

namespace Lexer

/-- The start of a text. -/
def ofText (text : String) : Lexer :=
  let chars := text.toList
  { rest := chars, limit := chars.length + 2 }

/-- Passes one character; a byte order mark takes no column. -/
def step (lexer : Lexer) : Lexer :=
  match lexer.rest with
  | [] => lexer
  | char :: rest =>
    let fresh := isBreak char
    { lexer with
      rest
      index := lexer.index + 1
      line := if fresh then lexer.line + 1 else lexer.line
      column :=
        if fresh then 0
        else if char = Char.ofNat 0xFEFF then lexer.column
        else lexer.column + 1 }

/-- Passes a number of characters. -/
def skip : Nat → Lexer → Lexer
  | 0, lexer => lexer
  | count + 1, lexer => skip count lexer.step

/-- The character after a number of others. -/
def peek (lexer : Lexer) (ahead : Nat) : Option Char := (lexer.rest.drop ahead).head?

/-- Whether a document mark stands here. -/
def startsDocumentMark (lexer : Lexer) : Bool :=
  match lexer.rest with
  | '-' :: '-' :: '-' :: rest => endsWord rest.head?
  | '.' :: '.' :: '.' :: rest => endsWord rest.head?
  | _ => false

theorem step_rest (lexer : Lexer) : lexer.step.rest = lexer.rest.tail := by
  unfold step
  split <;> simp_all

end Lexer

namespace Lex

/-- Gives up. -/
def fail {α : Type} (fault : Fault) : Lex α := throw fault

/-- The character after a number of others. -/
def peek (ahead : Nat) : Lex (Option Char) := do return (← get).peek ahead

/-- Passes a number of characters. -/
def skip (count : Nat) : Lex Unit := modify (Lexer.skip count)

/-- Passes the characters that are wanted and gives them. -/
def takeWhile (wanted : Char → Bool) : Lex (List Char) := do
  let found := (← get).rest.takeWhile wanted
  skip found.length
  return found

/-- Passes a break of lines, if one comes next. A line feed stands for it, unless it is a separator
of lines or paragraphs. -/
def lineBreak : Lex (List Char) := do
  match ← peek 0 with
  | some char =>
    if isBreak char then
      skip 1
      return if char = '\n' || char = Char.ofNat 0x85 then ['\n'] else [char]
    else return []
  | none => return []

/-- Passes the blanks and the comment at the end of a line, with its break. -/
def restOfLine : Lex Unit := do
  let _ ← takeWhile (· = ' ')
  if (← peek 0) = some '#' then
    let _ ← takeWhile fun char => !isBreak char
  if endsLine (← peek 0) then
    let _ ← lineBreak
  else fail .badToken

end Lex

end RouteTable.Yaml
