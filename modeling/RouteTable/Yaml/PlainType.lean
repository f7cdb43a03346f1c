/-
**The type of a plain scalar.**

A scalar without quotes and without a tag is nothing, a truth value, a number or a text, according
to how it is written. Whole numbers may be binary, octal, hexadecimal or in units of sixty.

* `typeOf_empty`: an empty scalar stands for nothing.
-/

import RouteTable.Datum
import RouteTable.Yaml.Token

namespace RouteTable.Yaml

/-- What kind of value a node has. -/
inductive Tag
  | null
  | boolean
  | integer
  | real
  | text
  | sequence
  | mapping
  | set
  | mergeKey
  | defaultKey
  | unknown (name : String)
deriving DecidableEq, Repr, Inhabited

/-- The common beginning of the names of tags. -/
def tagStart : String := "tag:yaml.org,2002:"

/-- The names of the tags after their common beginning. -/
def tagNames : List (String × Tag) :=
  [ ("null", .null), ("bool", .boolean), ("int", .integer), ("float", .real), ("str", .text),
    ("seq", .sequence), ("map", .mapping), ("set", .set), ("merge", .mergeKey),
    ("value", .defaultKey) ]

/-- The tag of a name. -/
def Tag.ofName (name : String) : Tag :=
  match tagNames.find? fun entry => tagStart ++ entry.1 = name with
  | some (_, tag) => tag
  | none => .unknown name

/-! ## How numbers are written -/

/-- Whether a character is a decimal digit or an underscore. -/
def isDigitOrGap (char : Char) : Bool := char.isDigit || char = '_'

/-- The text after its sign. -/
def afterSign : List Char → List Char
  | '-' :: rest => rest
  | '+' :: rest => rest
  | text => text

/-- Whether a text is a power of ten with a sign, or empty. -/
def isPower : List Char → Bool
  | [] => true
  | mark :: sign :: digits =>
    (mark = 'e' || mark = 'E') && (sign = '-' || sign = '+') && !digits.isEmpty &&
      digits.all Char.isDigit
  | _ => false

/-- Whether a text is one or two digits below sixty. -/
def isSixtieth : List Char → Bool
  | [digit] => digit.isDigit
  | [ten, digit] => '0' ≤ ten && ten ≤ '5' && digit.isDigit
  | _ => false

/-- Whether a text without its sign is a whole number. -/
def isWhole : List Char → Bool
  | ['0'] => true
  | '0' :: 'b' :: digits =>
    !digits.isEmpty && digits.all fun char => char = '0' || char = '1' || char = '_'
  | '0' :: 'x' :: digits =>
    !digits.isEmpty && digits.all fun char => (Text.Hex.value? char).isSome || char = '_'
  | '0' :: digits => digits.all fun char => ('0' ≤ char && char ≤ '7') || char = '_'
  | first :: rest =>
    first.isDigit &&
      match Text.pieces (· = ':') rest with
      | [] => false
      | head :: parts => head.all isDigitOrGap && parts.all isSixtieth
  | [] => false

/-- Whether a text without its sign is a number with a point after a digit. -/
def isPointed (text : List Char) : Bool :=
  match text with
  | first :: rest =>
    let before := rest.takeWhile isDigitOrGap
    first.isDigit &&
      match rest.drop before.length with
      | '.' :: after => isPower (after.dropWhile isDigitOrGap)
      | _ => false
  | [] => false

/-- Whether a text without its sign is a number with a point in units of sixty. -/
def isPointedSixties (text : List Char) : Bool :=
  match Text.cutAt '.' text with
  | some (first :: rest, after) =>
    after.all isDigitOrGap && first.isDigit &&
      match Text.pieces (· = ':') rest with
      | head :: part :: parts => head.all isDigitOrGap && (part :: parts).all isSixtieth
      | _ => false
  | _ => false

/-- Whether a text is a number with a point. -/
def isReal (text : List Char) : Bool :=
  let body := afterSign text
  isPointed body || isPointedSixties body ||
    [".inf", ".Inf", ".INF"].contains (String.ofList body) ||
    [".nan", ".NaN", ".NAN"].contains (String.ofList text) ||
    match text with
    | '.' :: first :: rest => first.isDigit && isPower (rest.dropWhile isDigitOrGap)
    | _ => false

/-- The words for truth values. -/
def truthWords : List (String × Bool) :=
  [("yes", true), ("no", false), ("true", true), ("false", false), ("on", true), ("off", false)]

/-- A word in the three ways in which it may be written. -/
def spellings (word : String) : List String :=
  let upper := word.toList.map Char.toUpper
  [word, String.ofList (upper.take 1 ++ word.toList.drop 1), String.ofList upper]

/-- The type of a plain scalar. -/
def typeOf (content : String) : Tag :=
  let text := content.toList
  if content = "" || content = "~" || (spellings "null").contains content then .null
  else if truthWords.any fun word => (spellings word.1).contains content then .boolean
  else if isReal text then .real
  else if isWhole (afterSign text) then .integer
  else if content = "<<" then .mergeKey
  else if content = "=" then .defaultKey
  else .text

theorem typeOf_empty : typeOf "" = .null := rfl

/-! ## What numbers stand for -/

/-- Whether a text has a minus in front. -/
def isNegative : List Char → Bool
  | '-' :: _ => true
  | _ => false

/-- A number in units of sixty, the most significant first. -/
def sixties (digits : List Int) : Int := digits.foldl (fun value digit => value * 60 + digit) 0

/-- The whole number that a text is written for, or why there is none. -/
def integerOf (content : String) : Except Fault Int :=
  let text := content.toList.filter (· ≠ '_')
  let body := afterSign text
  let signed (value : Int) : Int := if isNegative text then -value else value
  let read (base : Nat) (digits : List Char) : Except Fault Int :=
    (Numeral.read base (String.ofList digits)).mapError Fault.badNumeral
  match body with
  | [] => .error .emptyNumber
  | ['0'] => .ok 0
  | '0' :: 'b' :: digits => (read 2 digits).map signed
  | '0' :: 'x' :: digits => (read 16 digits).map signed
  | '0' :: digits => (read 8 ('0' :: digits)).map signed
  | _ =>
    if body.contains ':' then
      ((Text.pieces (· = ':') body).mapM (read 10)).map fun digits => signed (sixties digits)
    else (read 10 body).map signed

/-- The digits at the start of a text and what follows them. -/
def splitDigits (text : List Char) : List Char × List Char := text.span Char.isDigit

/-- The number that decimal digits with a point and a power of ten are written for. -/
def decimalOf? (negative : Bool) (text : List Char) : Option Double :=
  let (whole, rest) := splitDigits text
  let (fraction, rest) := match rest with
    | '.' :: after => splitDigits after
    | other => ([], other)
  let number (power : Int) : Double :=
    Double.ofDecimal negative
      (Numeral.valueOf 10 ((whole ++ fraction).map fun digit => digit.toNat - 48))
      (power - fraction.length)
  if whole.isEmpty && fraction.isEmpty then none
  else match rest with
    | [] => some (number 0)
    | mark :: power =>
      let digits := afterSign power
      if (mark = 'e' || mark = 'E') && !digits.isEmpty && digits.all Char.isDigit then
        let size : Int := Numeral.valueOf 10 (digits.map fun digit => digit.toNat - 48)
        some (number (if isNegative power then -size else size))
      else none

/-- A part of a number with a point, or why there is none. -/
def decimalOf (negative : Bool) (text : List Char) : Except Fault Double :=
  match decimalOf? negative text with
  | some number => .ok number
  | none => .error (.badReal (String.ofList text))

/-- The number with a point that a text is written for. -/
def realOf (content : String) : Except Fault Double :=
  let text := (content.toList.filter (· ≠ '_')).map Char.toLower
  let body := afterSign text
  let negative := isNegative text
  if text = [] then .error .emptyNumber
  else if body = ".inf".toList then .ok (.infinite negative)
  else if body = ".nan".toList then .ok .undefined
  else if body.contains ':' then
    ((Text.pieces (· = ':') body).mapM (decimalOf false)).map fun digits =>
      let sum := digits.reverse.foldl
        (fun (state : Double × Nat) digit =>
          (state.1.plus (digit.times state.2), state.2 * 60)) (Double.zero false, 1)
      if negative then sum.1.negated else sum.1
  else decimalOf negative body

end RouteTable.Yaml
