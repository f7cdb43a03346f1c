/-
**JSON text of a datum.**

The text is ASCII: quotes, backslashes and everything outside the range from the space to the
tilde are escaped, characters beyond the basic plane as two escapes. `line` writes on one line,
`indented` one entry a line with two more spaces at each level. The digits of a number are not
counted, since the program prints none that is too long to be read again.
-/

import RouteTable.Datum
import RouteTable.Text.Hex

namespace RouteTable.Json

/-- A sixteen-bit unit as an escape. -/
def escapeUnit (unit : Nat) : List Char := '\\' :: 'u' :: Text.Hex.digits 4 unit

/-- A character as it stands between quotes. -/
def escape (char : Char) : List Char :=
  if char = '"' ∨ char = '\\' then ['\\', char]
  else if char = '\n' then ['\\', 'n']
  else if char = '\r' then ['\\', 'r']
  else if char = '\t' then ['\\', 't']
  else if char.toNat = 8 then ['\\', 'b']
  else if char.toNat = 12 then ['\\', 'f']
  else if ' ' ≤ char ∧ char ≤ '~' then [char]
  else if char.toNat < 0x10000 then escapeUnit char.toNat
  else
    let offset := char.toNat - 0x10000
    escapeUnit (0xD800 + offset / 0x400) ++ escapeUnit (0xDC00 + offset % 0x400)

/-- A text between quotes. -/
def quote (text : String) : List Char := '"' :: (text.toList.flatMap escape ++ ['"'])

/-- A number of double precision. -/
def double (number : Double) : List Char :=
  match number with
  | .undefined => ['N', 'a', 'N']
  | .infinite negative => (if negative then ['-'] else []) ++ "Infinity".toList
  | finite => finite.text.toList

/-- A scalar without quotes. -/
def plain : Scalar → List Char
  | .null => ['n', 'u', 'l', 'l']
  | .boolean true => ['t', 'r', 'u', 'e']
  | .boolean false => ['f', 'a', 'l', 's', 'e']
  | .integer value => (toString value).toList
  | .real value => double value
  | .text content => content.toList

/-- A scalar as a value. -/
def scalar : Scalar → List Char
  | .text content => quote content
  | other => plain other

/-- A scalar as the key of an object. -/
def key (value : Scalar) : List Char := quote (String.ofList (plain value))

mutual

/-- A datum on one line. -/
def lineChars : Datum → List Char
  | .scalar value => scalar value
  | .list [] => ['[', ']']
  | .list (first :: rest) => '[' :: (lineChars first ++ lineItems rest)
  | .map [] => ['\x7b', '\x7d']
  | .map ((name, value) :: rest) =>
    '\x7b' :: (key name ++ ':' :: ' ' :: (lineChars value ++ lineEntries rest))

/-- The items of a list after the first. -/
def lineItems : List Datum → List Char
  | [] => [']']
  | item :: rest => ',' :: ' ' :: (lineChars item ++ lineItems rest)

/-- The entries of a map after the first. -/
def lineEntries : List (Scalar × Datum) → List Char
  | [] => ['\x7d']
  | (name, value) :: rest =>
    ',' :: ' ' :: (key name ++ ':' :: ' ' :: (lineChars value ++ lineEntries rest))

end

/-- A line break and the spaces of a level. -/
def newline (level : Nat) : List Char := '\n' :: List.replicate (2 * level) ' '

mutual

/-- A datum with one entry a line, inside `level` lists and maps. -/
def indentedChars (level : Nat) : Datum → List Char
  | .scalar value => scalar value
  | .list [] => ['[', ']']
  | .list (first :: rest) =>
    '[' :: (newline (level + 1) ++ indentedChars (level + 1) first ++ indentedItems level rest)
  | .map [] => ['\x7b', '\x7d']
  | .map ((name, value) :: rest) =>
    '\x7b' :: (newline (level + 1) ++ key name ++ ':' :: ' ' ::
      (indentedChars (level + 1) value ++ indentedEntries level rest))

/-- The items of a list after the first. -/
def indentedItems (level : Nat) : List Datum → List Char
  | [] => newline level ++ [']']
  | item :: rest =>
    ',' :: (newline (level + 1) ++ indentedChars (level + 1) item ++ indentedItems level rest)

/-- The entries of a map after the first. -/
def indentedEntries (level : Nat) : List (Scalar × Datum) → List Char
  | [] => newline level ++ ['\x7d']
  | (name, value) :: rest =>
    ',' :: (newline (level + 1) ++ key name ++ ':' :: ' ' ::
      (indentedChars (level + 1) value ++ indentedEntries level rest))

end

/-- A datum on one line. -/
def line (datum : Datum) : String := String.ofList (lineChars datum)

/-- A datum with one entry a line. -/
def indented (datum : Datum) : String := String.ofList (indentedChars 0 datum)

end RouteTable.Json
