/-
**Reading JSON text.**

One value with blanks around it; nothing may follow. `NaN`, `Infinity` and `-Infinity` are read as
numbers, a repeated key keeps its first place and takes its last value, and a lone surrogate
escape is read as the replacement character. A whole number is refused as soon as it is met if it
has more digits than a numeral may have.
-/

import RouteTable.Datum
import RouteTable.Number.Numeral
import RouteTable.Text.Hex

namespace RouteTable.Json

/-- Why a text is not read. -/
inductive Fault
  | malformed
  | tooLong (digits : Nat)
deriving DecidableEq, Repr

/-- Blanks between tokens. -/
def isBlank (char : Char) : Bool := char = ' ' || char = '\t' || char = '\n' || char = '\r'

/-- The text after its leading blanks. -/
def skipBlanks (text : List Char) : List Char := text.dropWhile isBlank

/-- The text after a word that it starts with. -/
def afterWord? : List Char → List Char → Option (List Char)
  | [], text => some text
  | _ :: _, [] => none
  | wanted :: word, head :: rest => if wanted = head then afterWord? word rest else none

/-- The unit of four hexadecimal digits, and the text after them. -/
def readUnit? : List Char → Option (Nat × List Char)
  | a :: b :: c :: d :: rest => (Text.Hex.ofDigits? 0 [a, b, c, d]).map fun unit => (unit, rest)
  | _ => none

/-- The second half of a surrogate pair, written as an escape at the start of the text. -/
def readLowHalf? : List Char → Option (Nat × List Char)
  | '\\' :: 'u' :: rest => do
    let (unit, after) ← readUnit? rest
    if 0xDC00 ≤ unit ∧ unit < 0xE000 then some (unit - 0xDC00, after) else none
  | _ => none

/-- The character of an escape after its backslash, and the text after it. -/
def readEscape? : List Char → Option (Char × List Char)
  | '"' :: rest => some ('"', rest)
  | '\\' :: rest => some ('\\', rest)
  | '/' :: rest => some ('/', rest)
  | 'b' :: rest => some (Char.ofNat 8, rest)
  | 'f' :: rest => some (Char.ofNat 12, rest)
  | 'n' :: rest => some ('\n', rest)
  | 'r' :: rest => some ('\r', rest)
  | 't' :: rest => some ('\t', rest)
  | 'u' :: rest => do
    let (unit, after) ← readUnit? rest
    if 0xD800 ≤ unit ∧ unit < 0xDC00 then
      match readLowHalf? after with
      | some (low, last) => some (Char.ofNat (0x10000 + (unit - 0xD800) * 0x400 + low), last)
      | none => some (Char.ofNat 0xFFFD, after)
    else if 0xDC00 ≤ unit ∧ unit < 0xE000 then some (Char.ofNat 0xFFFD, after)
    else some (Char.ofNat unit, after)
  | _ => none

/-- A text after its opening quote; `read` holds the characters already read, last first. -/
def readTextLoop : Nat → List Char → List Char → Option (String × List Char)
  | 0, _, _ => none
  | fuel + 1, read, text =>
    match text with
    | [] => none
    | '"' :: rest => some (String.ofList read.reverse, rest)
    | '\\' :: rest =>
      match readEscape? rest with
      | none => none
      | some (char, after) => readTextLoop fuel (char :: read) after
    | char :: rest => if char < ' ' then none else readTextLoop fuel (char :: read) rest

/-- A text after its opening quote, and what follows it. -/
def readText (text : List Char) : Option (String × List Char) :=
  readTextLoop (text.length + 1) [] text

/-- The digits at the start of a text, and what follows them. -/
def readDigits (text : List Char) : List Char × List Char := text.span Char.isDigit

/-- The number that decimal digits are written for. -/
def digitsValue (digits : List Char) : Nat :=
  digits.foldl (fun value digit => value * 10 + (digit.toNat - 48)) 0

/-- The digits after a point, if a point and a digit come next. -/
def readFraction : List Char → List Char × List Char
  | '.' :: rest =>
    match readDigits rest with
    | ([], _) => ([], '.' :: rest)
    | found => found
  | text => ([], text)

/-- A power of ten, if a mark and a digit come next. -/
def readPower (text : List Char) : Option Int × List Char :=
  match text with
  | mark :: rest =>
    if mark = 'e' ∨ mark = 'E' then
      let (negative, digits) := match rest with
        | '-' :: after => (true, after)
        | '+' :: after => (false, after)
        | other => (false, other)
      match readDigits digits with
      | ([], _) => (none, text)
      | (found, after) =>
        let size : Int := digitsValue found
        (some (if negative then -size else size), after)
    else (none, text)
  | [] => (none, text)

/-- The digits of a number before its point, and what follows them; a zero stands alone. -/
def readWhole : List Char → Option (List Char × List Char)
  | '0' :: rest => some (['0'], rest)
  | text =>
    match readDigits text with
    | ([], _) => none
    | found => some found

/-- A number after its sign. -/
def readNumber (negative : Bool) (text : List Char) : Except Fault (Scalar × List Char) :=
  match readWhole text with
  | none => .error .malformed
  | some (digits, rest) =>
    let (fraction, rest) := readFraction rest
    let (power, rest) := readPower rest
    if fraction.isEmpty ∧ power.isNone then
      let size : Int := digitsValue digits
      if Numeral.maxDigits < digits.length then .error (.tooLong digits.length)
      else .ok (.integer (if negative then -size else size), rest)
    else
      let scale := power.getD 0 - fraction.length
      .ok (.real (Double.ofDecimal negative (digitsValue (digits ++ fraction)) scale), rest)

/-- A value that is written as a word. -/
def readWord (word : String) (value : Scalar) (text : List Char) :
    Except Fault (Scalar × List Char) :=
  match afterWord? word.toList text with
  | some rest => .ok (value, rest)
  | none => .error .malformed

/-- A value that is neither a text, a list nor an object. -/
def readPlain (text : List Char) : Except Fault (Scalar × List Char) :=
  match text with
  | 'n' :: _ => readWord "null" .null text
  | 't' :: _ => readWord "true" (.boolean true) text
  | 'f' :: _ => readWord "false" (.boolean false) text
  | 'N' :: _ => readWord "NaN" (.real .undefined) text
  | 'I' :: _ => readWord "Infinity" (.real (.infinite false)) text
  | '-' :: 'I' :: _ => readWord "-Infinity" (.real (.infinite true)) text
  | '-' :: rest => readNumber true rest
  | other => readNumber false other

mutual

/-- A value at the start of a text, and what follows it. -/
def readValue : Nat → List Char → Except Fault (Datum × List Char)
  | 0, _ => .error .malformed
  | fuel + 1, text =>
    match text with
    | '"' :: rest =>
      match readText rest with
      | some (content, after) => .ok (.text content, after)
      | none => .error .malformed
    | '[' :: rest =>
      match skipBlanks rest with
      | ']' :: after => .ok (.list [], after)
      | items => readItems fuel [] items
    | '\x7b' :: rest =>
      match skipBlanks rest with
      | '\x7d' :: after => .ok (.map [], after)
      | entries => readEntries fuel [] entries
    | other => (readPlain other).map fun found => (.scalar found.1, found.2)

/-- The items of a list up to its closing bracket; `read` holds those before, last first. -/
def readItems : Nat → List Datum → List Char → Except Fault (Datum × List Char)
  | 0, _, _ => .error .malformed
  | fuel + 1, read, text =>
    match readValue fuel text with
    | .error fault => .error fault
    | .ok (item, rest) =>
      match skipBlanks rest with
      | ',' :: after => readItems fuel (item :: read) (skipBlanks after)
      | ']' :: after => .ok (.list (item :: read).reverse, after)
      | _ => .error .malformed

/-- The entries of an object up to its closing brace, after those already read. -/
def readEntries : Nat → Assoc Scalar Datum → List Char → Except Fault (Datum × List Char)
  | 0, _, _ => .error .malformed
  | fuel + 1, read, text =>
    match text with
    | '"' :: rest =>
      match readText rest with
      | none => .error .malformed
      | some (name, afterName) =>
        match skipBlanks afterName with
        | ':' :: afterColon =>
          match readValue fuel (skipBlanks afterColon) with
          | .error fault => .error fault
          | .ok (value, afterValue) =>
            let entries := read.put (.text name) value
            match skipBlanks afterValue with
            | ',' :: after => readEntries fuel entries (skipBlanks after)
            | '\x7d' :: after => .ok (.map entries, after)
            | _ => .error .malformed
        | _ => .error .malformed
    | _ => .error .malformed

end

/-- The value that a text is written for, or why there is none. -/
def read (text : String) : Except Fault Datum :=
  let chars := skipBlanks text.toList
  match readValue (chars.length + 1) chars with
  | .ok (value, rest) => if (skipBlanks rest).isEmpty then .ok value else .error .malformed
  | .error fault => .error fault

/-- The value that a text is written for, if there is one. -/
def read? (text : String) : Option Datum := (read text).toOption

end RouteTable.Json
