/-
**Message templates.**

A template holds marks such as `%s` or `%-5d`, each of which takes the next argument. A mark has
flags, a width, a precision and a letter; `%%` is a percent sign. If the only argument is a map, a
mark may name the entry that it takes.

* `fill_plain`: a template without arguments stands for itself.
-/

import RouteTable.Log.Layout

namespace RouteTable.Log

/-- Why a template cannot be filled in. -/
inductive TemplateFault
  | missingArgument
  | unusedArgument
  | wrongKind
  | noMap
  | missingKey (name : String)
  | incomplete
  | incompleteKey
  | tooWide
  | tooPrecise
  | outOfRange
  | notANumber
  | unknownMark (letter : Char) (index : Nat)
deriving DecidableEq, Repr

/-- The message of a fault. -/
def TemplateFault.message : TemplateFault → String
  | .missingArgument => "not enough arguments for format string"
  | .unusedArgument => "not all arguments converted during string formatting"
  | .wrongKind => "an argument of another kind is required"
  | .noMap => "format requires a mapping"
  | .missingKey name => Text.quoted name
  | .incomplete => "incomplete format"
  | .incompleteKey => "incomplete format key"
  | .tooWide => "width too big"
  | .tooPrecise => "precision too big"
  | .outOfRange => "number out of range"
  | .notANumber => "cannot convert float NaN to integer"
  | .unknownMark letter index =>
    let code := String.ofList (Nat.toDigits 16 letter.toNat)
    let shown := if 31 ≤ letter.toNat ∧ letter.toNat ≤ 126 then letter else '?'
    s!"unsupported format character '{shown}' (0x{code}) at index {index}"

/-! ## Values -/

/-- A character as it is written in ASCII. -/
def asciiChar (char : Char) : List Char :=
  if char.toNat < 0x80 then [char]
  else if char.toNat < 0x100 then '\\' :: 'x' :: Text.Hex.digits 2 char.toNat
  else if char.toNat < 0x10000 then '\\' :: 'u' :: Text.Hex.digits 4 char.toNat
  else '\\' :: 'U' :: Text.Hex.digits 8 char.toNat

/-- The whole number that a value is. -/
def whole? : Datum → Option Int
  | .boolean value => some (if value then 1 else 0)
  | .integer value => some value
  | _ => none

/-- The whole part of a number. -/
def wholePart (value : Datum) : Except TemplateFault Int :=
  match value with
  | .scalar (.real (.finite negative mantissa exponent)) =>
    let size := Double.magnitude mantissa exponent
    let whole : Int := (size.1 / size.2 : Nat)
    .ok (if negative then -whole else whole)
  | .scalar (.real (.infinite _)) => .error .outOfRange
  | .scalar (.real .undefined) => .error .notANumber
  | _ => ((whole? value).map Except.ok).getD (.error .wrongKind)

/-- The number of double precision that a value is nearest to. -/
def double (value : Datum) : Except TemplateFault Double :=
  match value with
  | .scalar (.real number) => .ok number
  | _ =>
    match whole? value with
    | none => .error .wrongKind
    | some number =>
      match Double.ofDecimal (number < 0) number.natAbs 0 with
      | .infinite _ => .error .outOfRange
      | found => .ok found

/-- The character that a value is or has the code of. -/
def character (value : Datum) : Except TemplateFault Char :=
  match value with
  | .text content =>
    match content.toList with
    | [char] => .ok char
    | _ => .error .wrongKind
  | _ =>
    match whole? value with
    | none => .error .wrongKind
    | some code => if 0 ≤ code ∧ code < 0x110000 then .ok (Char.ofNat code.toNat)
      else .error .outOfRange

/-- An argument as a letter asks for it; `index` is the place of the letter. -/
def Layout.show (layout : Layout) (letter : Char) (index : Nat) (value : Datum) :
    Except TemplateFault (List Char) :=
  let integer : Except TemplateFault Int :=
    ((whole? value).map Except.ok).getD (.error .wrongKind)
  match letter with
  | 's' => .ok (layout.text value.message)
  | 'r' => .ok (layout.text value.displayed)
  | 'a' => .ok (layout.text (String.ofList (value.displayed.toList.flatMap asciiChar)))
  | 'd' | 'i' | 'u' => (wholePart value).map (layout.whole 10 [] false)
  | 'x' => integer.map (layout.whole 16 ['0', 'x'] false)
  | 'X' => integer.map (layout.whole 16 ['0', 'X'] true)
  | 'o' => integer.map (layout.whole 8 ['0', 'o'] false)
  | 'e' | 'E' | 'f' | 'F' | 'g' | 'G' => (double value).map (layout.real letter)
  | 'c' => (character value).map fun char => layout.pad [char]
  | _ => .error (.unknownMark letter index)

/-! ## Marks -/

/-- The arguments that are left, and the map that marks may name entries of. -/
structure Arguments where
  left : List Datum
  entries : Option (List (Scalar × Datum)) := none

/-- The next argument. -/
def Arguments.next (arguments : Arguments) : Except TemplateFault (Datum × Arguments) :=
  match arguments.left with
  | [] => .error .missingArgument
  | value :: rest => .ok (value, { arguments with left := rest })

/-- The arguments for a mark that names an entry. -/
def Arguments.choose (arguments : Arguments) (name : String) : Except TemplateFault Arguments :=
  match arguments.entries with
  | none => .error .noMap
  | some entries =>
    match Assoc.get? entries (Scalar.text name) with
    | none => .error (.missingKey name)
    | some value => .ok { arguments with left := [value] }

/-- The name in parentheses and what follows it; `depth` parentheses are open inside of it. -/
def cutName (depth : Nat) (name : List Char) : List Char → Option (String × List Char)
  | [] => none
  | ')' :: rest =>
    match depth with
    | 0 => some (String.ofList name.reverse, rest)
    | depth + 1 => cutName depth (')' :: name) rest
  | '(' :: rest => cutName (depth + 1) ('(' :: name) rest
  | char :: rest => cutName depth (char :: name) rest

/-- Reads the name of an entry, if a mark begins with one. -/
def readName (arguments : Arguments) (text : List Char) :
    Except TemplateFault (Arguments × List Char) :=
  match text with
  | '(' :: rest =>
    if arguments.entries.isNone then .error .noMap
    else match cutName 0 [] rest with
      | none => .error .incompleteKey
      | some (name, after) => (arguments.choose name).map fun chosen => (chosen, after)
  | _ => .ok (arguments, text)

/-- Reads the flags of a mark. -/
def readFlags (layout : Layout) : List Char → Layout × List Char
  | '-' :: rest => readFlags { layout with left := true } rest
  | '0' :: rest => readFlags { layout with zeros := true } rest
  | '+' :: rest => readFlags { layout with plus := true } rest
  | ' ' :: rest => readFlags { layout with blank := true } rest
  | '#' :: rest => readFlags { layout with alternative := true } rest
  | rest => (layout, rest)

/-- The largest width, one below `2 ^ 63`. -/
def maxWidth : Nat := 9223372036854775807

/-- The largest precision, one below `2 ^ 31`. -/
def maxPrecision : Nat := 2147483647

/-- Reads a size: digits, or a star for the next argument. -/
def readSize (limit : Nat) (fault : TemplateFault) (arguments : Arguments) (text : List Char) :
    Except TemplateFault (Int × Arguments × List Char) :=
  match text with
  | '*' :: rest => do
    let (value, others) ← arguments.next
    match whole? value with
    | none => throw .wrongKind
    | some size => if limit < size.natAbs then throw .outOfRange else return (size, others, rest)
  | _ =>
    let digits := text.takeWhile Char.isDigit
    let size := digits.foldl (fun size digit => size * 10 + (digit.toNat - 48)) 0
    if limit < size then .error fault else .ok (size, arguments, text.drop digits.length)

/-- Reads the layout of a mark; what follows is its letter. -/
def readLayout (arguments : Arguments) (text : List Char) :
    Except TemplateFault (Layout × Arguments × List Char) := do
  let (arguments, rest) ← readName arguments text
  let (flags, rest) := readFlags {} rest
  let (width, arguments, rest) ← readSize maxWidth .tooWide arguments rest
  let layout := { flags with left := flags.left || width < 0, width := width.natAbs }
  let (layout, arguments, rest) ← match rest with
    | '.' :: after => do
      let (precision, arguments, rest) ← readSize maxPrecision .tooPrecise arguments after
      pure ({ layout with precision := some precision.toNat }, arguments, rest)
    | _ => pure (layout, arguments, rest)
  let rest := match rest with
    | 'h' :: after | 'l' :: after | 'L' :: after => after
    | _ => rest
  return (layout, arguments, rest)

/-! ## Filling in -/

/-- Fills in the marks of a text, of which `total` characters were there at the start. -/
def fillLoop (total : Nat) : Nat → Arguments → List Char → Except TemplateFault (List Char)
  | _, arguments, [] =>
    if arguments.left.isEmpty ∨ arguments.entries.isSome then .ok [] else .error .unusedArgument
  | 0, _, _ => .error .incomplete
  | fuel + 1, arguments, '%' :: '%' :: rest => do
    return '%' :: (← fillLoop total fuel arguments rest)
  | fuel + 1, arguments, '%' :: rest => do
    let (layout, arguments, after) ← readLayout arguments rest
    match after with
    | [] => throw .incomplete
    | letter :: rest =>
      let (value, arguments) ← arguments.next
      let shown ← layout.show letter (total - after.length) value
      return shown ++ (← fillLoop total fuel arguments rest)
  | fuel + 1, arguments, char :: rest => do return char :: (← fillLoop total fuel arguments rest)

/-- The arguments of a message; a single map that is not empty may be named in its marks. -/
def Arguments.ofList (arguments : List Datum) : Arguments :=
  match arguments with
  | [.map (first :: rest)] => { left := arguments, entries := some (first :: rest) }
  | _ => { left := arguments }

/-- The message of a template; without arguments it is the template itself. -/
def fill (template : String) (arguments : List Datum) : Except TemplateFault String :=
  if arguments.isEmpty then .ok template
  else
    (fillLoop template.length template.length (.ofList arguments) template.toList).map
      String.ofList

theorem fill_plain (template : String) : fill template [] = .ok template := rfl

end RouteTable.Log
