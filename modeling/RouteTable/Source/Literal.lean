/-
**Literals.**

Texts, symbols, word lists, patterns, numbers, variables and announced text blocks. A quoted
literal has the runs of plain characters and the interpolated parts between its quotes as
children; what stands inside an interpolation is read by a reader that is passed in.
-/

import RouteTable.Source.Word

namespace RouteTable.Source

/-- The mark that closes what an opening mark opens. -/
def closingMark (opening : Char) : Char :=
  match opening with
  | '(' => ')'
  | '[' => ']'
  | '\x7b' => '\x7d'
  | '<' => '>'
  | same => same

/-- How a quoted literal ends and what may stand in it. -/
structure Quotes where
  opening : Option Char
  closing : Char
  interpolates : Bool

/-- The quotes that an opening mark begins; brackets nest, other marks do not. -/
def Quotes.ofOpening (opening : Char) (interpolates : Bool) : Quotes :=
  let closing := closingMark opening
  ⟨if closing = opening then none else some opening, closing, interpolates⟩

/-- The length of an interpolation without braces (`#@name`), if one begins. -/
def shortInterpolation? (text : List Char) : Option Nat :=
  let name (before : Nat) : Option Nat :=
    let word := wordOf (text.drop before)
    if word.isEmpty then none else some (before + word.length)
  match text with
  | '#' :: '@' :: '@' :: _ => name 3
  | '#' :: '@' :: _ => name 2
  | '#' :: '$' :: _ => name 2
  | _ => none

/-- Adds the run of plain characters between two places, unless it is empty. -/
def addRun (first last : Cursor) (parts : List Node) : List Node :=
  if first.offset < last.offset then
    ⟨.other, first.offset, last.offset, first.row, none, true, []⟩ :: parts
  else parts

namespace Read

/-- An interpolation in braces. -/
def interpolation (inside : Read (List Node)) : Read Node := do
  let place ← get
  skip 2
  let _ ← inside
  lines
  expect "\x7d"
  close place .interpolation []

/-- The parts of a quoted literal up to its closing mark; `run` is the start of the current run of
plain characters, `depth` counts open brackets. -/
def quotedLoop (inside : Read (List Node)) (quotes : Quotes) :
    Nat → Nat → Cursor → List Node → Read (List Node)
  | 0, _, _, _ => failure
  | fuel + 1, depth, run, parts => do
    let here ← get
    match here.rest with
    | [] => failure
    | '\\' :: _ =>
      skip 2
      quotedLoop inside quotes fuel depth run parts
    | char :: more =>
      if char = quotes.closing && depth = 0 then
        skip 1
        return (addRun run here parts).reverse
      else if quotes.interpolates && char = '#' && more.head? = some '\x7b' then
        let part ← interpolation inside
        quotedLoop inside quotes fuel depth (← get) (part :: addRun run here parts)
      else match if quotes.interpolates then shortInterpolation? here.rest else none with
        | some length =>
          skip length
          let part ← close here .interpolation []
          quotedLoop inside quotes fuel depth (← get) (part :: addRun run here parts)
        | none =>
          skip 1
          let depth :=
            if quotes.opening = some char then depth + 1
            else if char = quotes.closing then depth - 1
            else depth
          quotedLoop inside quotes fuel depth run parts

/-- The parts of a quoted literal after its opening mark. -/
def quoted (inside : Read (List Node)) (quotes : Quotes) : Read (List Node) := do
  let here ← get
  quotedLoop inside quotes here.limit 0 here []

/-- The words of a word list up to its closing mark; `word` is the start of the current word. -/
def wordListLoop (inside : Read (List Node)) (quotes : Quotes) (kind : Kind) :
    Nat → Nat → Option Cursor → List Node → Read (List Node)
  | 0, _, _, _ => failure
  | fuel + 1, depth, word, words => do
    let here ← get
    let ended := match word with
      | none => words
      | some first => ⟨kind, first.offset, here.offset, first.row, none, true, []⟩ :: words
    match here.rest with
    | [] => failure
    | '\\' :: _ =>
      skip 2
      wordListLoop inside quotes kind fuel depth (word.or (some here)) words
    | char :: more =>
      if char = quotes.closing && depth = 0 then
        skip 1
        return ended.reverse
      else if isSpace char || isLineEnd char then
        skip 1
        wordListLoop inside quotes kind fuel depth none ended
      else if quotes.interpolates && char = '#' && more.head? = some '\x7b' then
        let _ ← interpolation inside
        wordListLoop inside quotes kind fuel depth (word.or (some here)) words
      else
        skip 1
        let depth :=
          if quotes.opening = some char then depth + 1
          else if char = quotes.closing then depth - 1
          else depth
        wordListLoop inside quotes kind fuel depth (word.or (some here)) words

/-- The words of a word list after its opening mark. -/
def wordList (inside : Read (List Node)) (quotes : Quotes) (kind : Kind) : Read (List Node) := do
  wordListLoop inside quotes kind (← get).limit 0 none []

/-- A literal between two equal quotes. -/
def quotedBy (inside : Read (List Node)) (kind : Kind) (interpolates : Bool) : Read Node := do
  let place ← get
  match place.next? with
  | none => failure
  | some quote =>
    skip 1
    let parts ← quoted inside ⟨none, quote, interpolates⟩
    close place kind parts

/-- The letters after a pattern. -/
def patternFlags : Read Unit :=
  modify fun cursor => cursor.skipWhile Char.isLower cursor.limit

/-- A pattern between slashes. -/
def pattern (inside : Read (List Node)) : Read Node := do
  let place ← get
  skip 1
  let parts ← quoted inside ⟨none, '/', true⟩
  patternFlags
  close place .regex parts

/-- A literal that begins with a percent sign. -/
def percent (inside : Read (List Node)) : Read Node := do
  let place ← get
  skip 1
  let letter := (place.rest.drop 1).head?.filter Char.isAlpha
  if letter.isSome then skip 1
  match (← get).next? with
  | none => failure
  | some opening =>
    skip 1
    let quotes := Quotes.ofOpening opening
    match letter with
    | some 'w' => close place .stringArray (← wordList inside (quotes false) .bareString)
    | some 'W' => close place .stringArray (← wordList inside (quotes true) .bareString)
    | some 'i' => close place .symbolArray (← wordList inside (quotes false) .bareSymbol)
    | some 'I' => close place .symbolArray (← wordList inside (quotes true) .bareSymbol)
    | some 'q' => close place .string (← quoted inside (quotes false))
    | some 's' => close place .delimitedSymbol (← quoted inside (quotes false))
    | some 'x' => close place .other (← quoted inside (quotes true))
    | some 'r' =>
      let parts ← quoted inside (quotes true)
      patternFlags
      close place .regex parts
    | _ => close place .string (← quoted inside (quotes true))

/-- The length of a symbol's name after its colon. -/
def symbolLength (text : List Char) : Nat :=
  let plain (before : Nat) (text : List Char) : Nat :=
    let word := markedWordOf text
    let marked := (word.getLast?.any fun last => last = '?' || last = '!')
    if word.isEmpty then 0
    else if !marked && startsEquals (text.drop word.length) then before + word.length + 1
    else before + word.length
  match text with
  | '@' :: '@' :: rest => plain 2 rest
  | '@' :: rest => plain 1 rest
  | '$' :: rest =>
    let word := rest.takeWhile isWordChar
    1 + (if word.isEmpty then 1 else word.length)
  | _ =>
    match plain 0 text with
    | 0 => ((methodOperatorOf? text).map String.length).getD 0
    | length => length

/-- A symbol. -/
def symbol (inside : Read (List Node)) : Read Node := do
  let place ← get
  skip 1
  match (← get).next? with
  | some '"' =>
    skip 1
    close place .delimitedSymbol (← quoted inside ⟨none, '"', true⟩)
  | some '\'' =>
    skip 1
    close place .delimitedSymbol (← quoted inside ⟨none, '\'', false⟩)
  | _ =>
    match symbolLength (← get).rest with
    | 0 => failure
    | length =>
      skip length
      close place .simpleSymbol []

/-- Whether a character may stand in the digits of a number. -/
def isNumberChar (char : Char) : Bool := char.isDigit || char = '_'

/-- Passes the fraction and the power of ten of a number. -/
def numberTail : Read Unit := do
  let passDigits : Read Unit := modify fun cursor => cursor.skipWhile isNumberChar cursor.limit
  match (← get).rest with
  | '.' :: digit :: _ =>
    if digit.isDigit then
      skip 1
      passDigits
  | _ => pure ()
  match (← get).rest with
  | mark :: sign :: digit :: _ =>
    if mark = 'e' || mark = 'E' then
      if sign.isDigit then
        skip 1
        passDigits
      else if (sign = '+' || sign = '-') && digit.isDigit then
        skip 2
        passDigits
  | [mark, digit] => if (mark = 'e' || mark = 'E') && digit.isDigit then skip 2
  | _ => pure ()

/-- A number without a sign. -/
def number : Read Node := do
  let place ← get
  match place.rest with
  | '0' :: mark :: _ =>
    if mark.isAlpha && mark ≠ 'e' && mark ≠ 'r' && mark ≠ 'i' then
      modify fun cursor => cursor.skipWhile isWordChar cursor.limit
    else
      modify fun cursor => cursor.skipWhile isNumberChar cursor.limit
      numberTail
  | _ =>
    modify fun cursor => cursor.skipWhile isNumberChar cursor.limit
    numberTail
  if !(startsAnyKeyword reservedWords (← get).rest) then
    modify fun cursor => cursor.skipWhile (fun char => char = 'r' || char = 'i') 2
  close place .other []

/-- A number with a minus sign directly before its digits. -/
def negativeNumber : Read Node := do
  let place ← get
  expect "-"
  let _ ← number
  close place .other []

/-- A variable with a sign in front of its name. -/
def signedName : Read Node := do
  let place ← get
  match place.rest with
  | '$' :: rest =>
    let word := rest.takeWhile isWordChar
    if word.isEmpty then
      if rest.head? = some '-' then skip 3 else skip 2
    else skip (1 + word.length)
  | '@' :: '@' :: rest => skip (2 + (wordOf rest).length)
  | '@' :: rest => skip (1 + (wordOf rest).length)
  | _ => failure
  close place .other []

/-- A character after a question mark. -/
def character : Read Node := do
  let place ← get
  match place.rest with
  | '?' :: '\\' :: _ =>
    skip 3
    modify fun cursor => cursor.skipWhile isWordChar cursor.limit
  | _ => skip 2
  close place .other []

/-- The announcement of a text block, with its length. -/
def heredocOf? (text : List Char) : Option (Heredoc × Nat) :=
  let named (indented : Bool) (before : Nat) (text : List Char) : Option (Heredoc × Nat) :=
    match text with
    | quote :: rest =>
      if quote = '"' || quote = '\'' || quote = '\x60' then
        let name := rest.takeWhile (· ≠ quote)
        if name.isEmpty then none else some (⟨name, indented⟩, before + name.length + 2)
      else
        let name := wordOf text
        if name.isEmpty then none else some (⟨name, indented⟩, before + name.length)
    | [] => none
  match text with
  | '<' :: '<' :: '~' :: rest => named true 3 rest
  | '<' :: '<' :: '-' :: rest => named true 3 rest
  | '<' :: '<' :: rest => named false 2 rest
  | _ => none

/-- The announcement of a text block, whose lines are passed with the end of the line. -/
def heredoc : Read Node := do
  let place ← get
  match heredocOf? place.rest with
  | none => failure
  | some (block, length) =>
    skip length
    modify fun cursor => { cursor with pending := cursor.pending ++ [block] }
    close place .other []

end Read

/-- Whether a number with a minus sign begins. -/
def startsNegative (text : List Char) : Bool :=
  match text with
  | '-' :: digit :: _ => digit.isDigit
  | _ => false

/-- Whether a literal with a percent sign begins, and not a remainder. -/
def startsPercent (text : List Char) : Bool :=
  let delimits (char : Char) : Bool :=
    !(char.isAlphanum || isSpace char || isLineEnd char || 128 ≤ char.toNat)
  match text with
  | '%' :: letter :: rest =>
    if "qQwWiIrsx".toList.contains letter then rest.head?.any delimits
    else delimits letter && letter ≠ '='
  | _ => false

end RouteTable.Source
