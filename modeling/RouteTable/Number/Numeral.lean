/-
**Reading whole numbers.**

A numeral has blanks around it, perhaps a sign, and digits of its base in which single underscores
may stand between two digits. Decimal numerals may use the digits of any script and are limited in
length.

* `scan_digits`: digits without underscores are passed as they are.
-/

import RouteTable.Text.Blank
import RouteTable.Text.Digit
import RouteTable.Text.Quoted

namespace RouteTable

/-- Why a text is no numeral. -/
inductive NumeralFault
  | malformed (base : Nat) (text : String)
  | tooLong (digits : Nat)
deriving DecidableEq, Repr

namespace Numeral

/-- The most digits that a decimal numeral may have. -/
def maxDigits : Nat := 4300

/-- The value of a digit in a base. -/
def digitIn? (base : Nat) (char : Char) : Option Nat :=
  ((Text.digitValue? char).or (Text.Hex.value? char)).filter (· < base)

/-- Whether a character is blank around a numeral. -/
def isBlank (char : Char) : Bool :=
  if char.toNat < 128 then char = ' ' || (9 ≤ char.toNat && char.toNat ≤ 13)
  else Text.isBlank char

/-- The digits at the start of a text and what follows them; `separated` says that an underscore
may come. An underscore that does not stand between two digits is refused. -/
def scan (base : Nat) (separated : Bool) : List Char → Option (List Nat × List Char)
  | [] => if separated then some ([], []) else none
  | char :: rest =>
    match digitIn? base char with
    | some digit => (scan base true rest).map fun found => (digit :: found.1, found.2)
    | none =>
      if !separated then none
      else if char = '_' then scan base false rest
      else some ([], char :: rest)

/-- The number that digits of a base are written for. -/
def valueOf (base : Nat) (digits : List Nat) : Nat :=
  digits.foldl (fun value digit => value * base + digit) 0

/-- The whole number that a text is written for. -/
def read (base : Nat) (text : String) : Except NumeralFault Int :=
  let (negative, body) := match text.toList.dropWhile isBlank with
    | '-' :: rest => (true, rest)
    | '+' :: rest => (false, rest)
    | rest => (false, rest)
  match scan base false body with
  | none => .error (.malformed base text)
  | some (digits, rest) =>
    if base = 10 ∧ maxDigits < digits.length then .error (.tooLong digits.length)
    else if rest.all isBlank then
      let size : Int := valueOf base digits
      .ok (if negative then -size else size)
    else .error (.malformed base text)

theorem scan_digits {base : Nat} {chars : List Char} {digits : List Nat}
    (all : chars.map (digitIn? base) = digits.map some) :
    scan base true chars = some (digits, []) := by
  induction chars generalizing digits with
  | nil => cases digits <;> simp_all [scan]
  | cons char rest ih =>
    cases digits with
    | nil => simp at all
    | cons digit others =>
      simp only [List.map_cons, List.cons.injEq] at all
      simp [scan, all.1, ih all.2]

end Numeral

/-- The message of a numeral fault; a long text is cut. -/
def NumeralFault.message : NumeralFault → String
  | .malformed base text =>
    let shown := String.ofList ((Text.quoted text).toList.take 200)
    s!"invalid literal for int() with base {base}: {shown}"
  | .tooLong digits =>
    s!"Exceeds the limit ({Numeral.maxDigits} digits) for integer string conversion: value has " ++
      s!"{digits} digits; use sys.set_int_max_str_digits() to increase the limit"

end RouteTable
