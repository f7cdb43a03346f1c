/-
**Words and marks.**

A word is a run of letters, digits and underscores that does not start with a digit; every
character outside ASCII counts as a letter. Which words are reserved and which marks are operators
is fixed here.
-/

import RouteTable.Source.Blank

namespace RouteTable.Source

/-- Whether a word may start with a character. -/
def isWordStart (char : Char) : Bool := char.isAlpha || char = '_' || 128 ≤ char.toNat

/-- Whether a word may go on with a character. -/
def isWordChar (char : Char) : Bool := isWordStart char || char.isDigit

/-- Whether a word names a constant. -/
def isConstant (word : List Char) : Bool :=
  match word with
  | first :: _ => first.isUpper
  | [] => false

/-- The word at the start of a text, empty if there is none. -/
def wordOf (text : List Char) : List Char :=
  match text with
  | first :: _ => if isWordStart first then text.takeWhile isWordChar else []
  | [] => []

/-- Whether `?` or `!` after a word belongs to it: it does unless an assignment or `!=` begins. -/
def takesMark (rest : List Char) : Bool :=
  match rest with
  | mark :: '=' :: after =>
    (mark = '?' || mark = '!') &&
      match after with
      | next :: _ => next = '=' || next = '~' || next = '>'
      | [] => false
  | mark :: _ => mark = '?' || mark = '!'
  | [] => false

/-- The word at the start of a text with its `?` or `!`. -/
def markedWordOf (text : List Char) : List Char :=
  let word := wordOf text
  if word.isEmpty then []
  else
    let rest := text.drop word.length
    if takesMark rest then word ++ rest.take 1 else word

/-- The words that end a list of statements. -/
def closingWords : List String :=
  ["end", "else", "elsif", "when", "in", "rescue", "ensure"]

/-- The words that cannot begin an argument. -/
def nonArgumentWords : List String :=
  closingWords ++ ["if", "unless", "while", "until", "and", "or", "then", "do"]

/-- The words that are not names. -/
def reservedWords : List String :=
  nonArgumentWords ++
    ["alias", "begin", "BEGIN", "break", "case", "class", "def", "defined?", "END", "false", "for",
     "module", "next", "nil", "not", "redo", "retry", "return", "self", "super", "true", "undef",
     "yield"]

/-- Whether a label (`only:`) begins: a word, a colon and no second colon. -/
def labelLength? (text : List Char) : Option Nat :=
  let word := markedWordOf text
  if word.isEmpty then none
  else match text.drop word.length with
    | ':' :: ':' :: _ => none
    | ':' :: _ => some word.length
    | _ => none

/-- Whether a reserved word begins, and not a label or a longer word. -/
def startsKeyword (word : String) (text : List Char) : Bool :=
  wordOf text = word.toList && (labelLength? text).isNone &&
    !takesMark (text.drop word.length)

/-- Whether one of several reserved words begins. -/
def startsAnyKeyword (words : List String) (text : List Char) : Bool :=
  let word := String.ofList (wordOf text)
  words.contains word && startsKeyword word text

/-- The two-place operators by precedence; a longer mark comes before its beginnings. -/
def operators : List (String × Nat) :=
  [ ("**", 16), ("&&", 8), ("||", 7), ("<=>", 9), ("===", 9), ("==", 9), ("=~", 9), ("!=", 9),
    ("!~", 9), ("<<", 13), (">>", 13), ("<=", 10), (">=", 10), ("...", 6), ("..", 6), ("*", 15),
    ("/", 15), ("%", 15), ("+", 14), ("-", 14), ("&", 12), ("|", 11), ("^", 11), ("<", 10),
    (">", 10) ]

/-- The operators that an equals sign turns into an assignment. -/
def assignableOperators : List String :=
  ["**", "&&", "||", "<<", ">>", "*", "/", "%", "+", "-", "&", "|", "^"]

/-- The operator at the start of a text. -/
def operatorOf? (text : List Char) : Option (String × Nat) :=
  operators.find? fun operator => operator.1.toList.isPrefixOf text

/-- Whether a single equals sign begins. -/
def startsEquals (text : List Char) : Bool :=
  match text with
  | '=' :: after :: _ => after ≠ '=' && after ≠ '~' && after ≠ '>'
  | ['='] => true
  | _ => false

/-- The length of the assignment mark at the start of a text. -/
def assignmentLength? (text : List Char) : Option Nat :=
  if startsEquals text then some 1
  else
    let mark := assignableOperators.find? fun operator =>
      (operator.toList ++ ['=']).isPrefixOf text &&
        startsEquals (text.drop operator.length)
    mark.map fun operator => operator.length + 1

/-- The operators that may be the name of a method or a symbol. -/
def methodOperators : List String :=
  [ "[]=", "[]", "<=>", "===", "==", "=~", "!=", "!~", "**", "+@", "-@", "~@", "!@", "<<", ">>",
    "<=", ">=", "+", "-", "*", "/", "%", "&", "|", "^", "<", ">", "!", "~", "\x60" ]

/-- The operator at the start of a text that may be a name. -/
def methodOperatorOf? (text : List Char) : Option String :=
  methodOperators.find? fun operator => operator.toList.isPrefixOf text

end RouteTable.Source
