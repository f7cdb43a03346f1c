/-
**Laying out a value in a message.**

A layout has flags, a width and a precision. It says how a text, a whole number or a number with
decimal places is padded and cut.

* `pad_length`: a padded text has at least the width of its layout;
* `pad_wide`: a text that fills its width stays as it is.
-/

import RouteTable.Datum.Display

namespace RouteTable.Log

/-- What stands between the percent sign and the letter of a mark. -/
structure Layout where
  left : Bool := false
  zeros : Bool := false
  plus : Bool := false
  blank : Bool := false
  alternative : Bool := false
  width : Nat := 0
  precision : Option Nat := none
deriving Repr

namespace Layout

/-- A text of at least the width of a layout. -/
def pad (layout : Layout) (body : List Char) : List Char :=
  let missing := List.replicate (layout.width - body.length) ' '
  if layout.left then body ++ missing else missing ++ body

theorem pad_length (layout : Layout) (body : List Char) :
    layout.width ≤ (layout.pad body).length := by
  unfold pad
  split <;> simp <;> omega

theorem pad_wide {layout : Layout} {body : List Char} (wide : layout.width ≤ body.length) :
    layout.pad body = body := by
  simp [pad, Nat.sub_eq_zero_of_le wide]

/-- A text, cut to the precision. -/
def text (layout : Layout) (content : String) : List Char :=
  layout.pad (match layout.precision with
    | some size => content.toList.take size
    | none => content.toList)

/-- The sign of a number. -/
def sign (layout : Layout) (negative : Bool) : List Char :=
  if negative then ['-'] else if layout.plus then ['+'] else if layout.blank then [' '] else []

/-- A number with what stands before it and, if asked for, zeros up to the width. -/
def number (layout : Layout) (start body : List Char) : List Char :=
  if layout.zeros && !layout.left then
    start ++ List.replicate (layout.width - start.length - body.length) '0' ++ body
  else layout.pad (start ++ body)

/-! ## Whole numbers -/

/-- A whole number in a base with at least as many digits as the precision says; `mark` stands
before the digits if the alternative form is asked for. -/
def whole (layout : Layout) (base : Nat) (mark : List Char) (upper : Bool) (value : Int) :
    List Char :=
  let digits := Nat.toDigits base value.natAbs
  let digits := if upper then digits.map Char.toUpper else digits
  let zeros := List.replicate (layout.precision.getD 0 - digits.length) '0'
  let start := layout.sign (value < 0) ++ if layout.alternative then mark else []
  layout.number start (zeros ++ digits)

/-! ## Decimal places -/

/-- A fraction with a number of decimal places; `pointed` asks for a point in any case. -/
def fixed (pointed : Bool) (places : Nat) (fraction : Nat × Nat) : List Char :=
  let scaled := roundDiv (fraction.1 * Nat.pow 10 places) fraction.2
  let digits := Nat.toDigits 10 scaled
  let digits := List.replicate (places + 1 - digits.length) '0' ++ digits
  let point := if places = 0 && !pointed then [] else ['.']
  digits.take (digits.length - places) ++ point ++ digits.drop (digits.length - places)

/-- The digits of a fraction, one more than `places`, and the power of ten of the first one. -/
def leading (places : Nat) (fraction : Nat × Nat) : List Char × Int :=
  if fraction.1 = 0 then (List.replicate (places + 1) '0', 0)
  else
    let order := Double.decimalOrder fraction - 1
    let scaled := scaleFraction 10 (places - order) fraction
    let digits := Nat.toDigits 10 (roundDiv scaled.1 scaled.2)
    if places + 1 < digits.length then (digits.take (places + 1), order + 1) else (digits, order)

/-- A power of ten with its sign and at least two digits. -/
def power (upper : Bool) (order : Int) : List Char :=
  let digits := Nat.toDigits 10 order.natAbs
  (if upper then 'E' else 'e') :: (if order < 0 then '-' else '+') ::
    (List.replicate (2 - digits.length) '0' ++ digits)

/-- Digits with a point after the first one. -/
def pointed (always : Bool) (digits : List Char) : List Char :=
  let rest := digits.drop 1
  digits.take 1 ++ (if rest.isEmpty && !always then [] else '.' :: rest)

/-- A fraction with a power of ten. -/
def scientific (always upper : Bool) (places : Nat) (fraction : Nat × Nat) : List Char :=
  let (digits, order) := leading places fraction
  pointed always digits ++ power upper order

/-- Decimal places without the zeros at their end. -/
def trimZeros (text : List Char) : List Char :=
  if text.contains '.' then
    let kept := text.reverse.dropWhile (· = '0')
    (match kept with
      | '.' :: rest => rest
      | rest => rest).reverse
  else text

/-- A fraction with a number of digits, with a power of ten if it is very large or small. -/
def general (always upper : Bool) (count : Nat) (fraction : Nat × Nat) : List Char :=
  let count := max count 1
  let (digits, order) := leading (count - 1) fraction
  let trim (text : List Char) : List Char := if always then text else trimZeros text
  if order < -4 ∨ (count : Int) ≤ order then trim (pointed always digits) ++ power upper order
  else trim (fixed always (count - 1 - order).toNat fraction)

/-- The form that a letter asks for a fraction to be written in. -/
def form (layout : Layout) (letter : Char) : Nat × Nat → List Char :=
  let places := layout.precision.getD 6
  let upper := letter.isUpper
  match letter.toLower with
  | 'e' => scientific layout.alternative upper places
  | 'g' => general layout.alternative upper places
  | _ => fixed layout.alternative places

/-- A number of double precision in the form that a letter asks for. -/
def real (layout : Layout) (letter : Char) (value : Double) : List Char :=
  let word (letters : String) : List Char :=
    if letter.isUpper then letters.toList.map Char.toUpper else letters.toList
  match value with
  | .undefined => layout.number (layout.sign false) (word "nan")
  | .infinite negative => layout.number (layout.sign negative) (word "inf")
  | .finite negative mantissa exponent =>
    layout.number (layout.sign negative)
      (layout.form letter (Double.magnitude mantissa exponent))

end Layout

end RouteTable.Log
