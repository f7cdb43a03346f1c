/-
**Scalars read back from JSON text.**

A text between quotes is read back whatever characters it holds, and a whole number is read back
unless it has more digits than a numeral may have.

* `escape_cases`, `readText_escaped`: characters stand for themselves or as escapes that are read;
* `digitsValue_decimal`, `length_decimal_le_iff`: the decimal digits of a number;
* `readNumber_decimal`: a number is read up to where its digits end;
* `readPlain_plain`: scalars without quotes.
-/

import Mathlib.Data.List.TakeDrop
import RouteTable.Json.Printer
import RouteTable.Json.Reader

namespace RouteTable

/-! ## Texts -/

namespace Json

theorem readUnit?_digits {unit : Nat} (small : unit < 0x10000) (rest : List Char) :
    readUnit? (Text.Hex.digits 4 unit ++ rest) = some (unit, rest) := by
  show (Text.Hex.ofDigits? 0 (Text.Hex.digits 4 unit)).map (fun read => (read, rest)) = _
  rw [Text.Hex.ofDigits_digits 4 unit small, Option.map_some]

/-- A unit outside the surrogates is a character. -/
theorem readEscape?_unit {unit : Nat} (small : unit < 0x10000)
    (plain : unit < 0xD800 ∨ 0xE000 ≤ unit) (rest : List Char) :
    readEscape? ('u' :: (Text.Hex.digits 4 unit ++ rest)) = some (Char.ofNat unit, rest) := by
  rw [readEscape?, readUnit?_digits small]
  dsimp only [bind, Option.bind]
  rw [if_neg (by omega), if_neg (by omega)]

/-- Two halves are a character beyond the basic plane. -/
theorem readEscape?_pair {high low : Nat} (highSmall : high < 0x400) (lowSmall : low < 0x400)
    (rest : List Char) :
    readEscape? ('u' :: (Text.Hex.digits 4 (0xD800 + high) ++
      (escapeUnit (0xDC00 + low) ++ rest))) =
      some (Char.ofNat (0x10000 + high * 0x400 + low), rest) := by
  have half : readLowHalf? (escapeUnit (0xDC00 + low) ++ rest) = some (low, rest) := by
    show readLowHalf? ('\\' :: 'u' :: (Text.Hex.digits 4 (0xDC00 + low) ++ rest)) = _
    rw [readLowHalf?, readUnit?_digits (by omega)]
    dsimp only [bind, Option.bind]
    rw [if_pos (by omega), Nat.add_sub_cancel_left]
  rw [readEscape?, readUnit?_digits (by omega)]
  dsimp only [bind, Option.bind]
  rw [if_pos (by omega), half, Nat.add_sub_cancel_left]

/-- A character beyond the basic plane, from its halves. -/
theorem ofNat_halves {char : Char} (beyond : 0x10000 ≤ char.toNat) :
    Char.ofNat (0x10000 + (char.toNat - 0x10000) / 0x400 * 0x400 +
      (char.toNat - 0x10000) % 0x400) = char := by
  have whole : 0x10000 + (char.toNat - 0x10000) / 0x400 * 0x400 +
      (char.toNat - 0x10000) % 0x400 = char.toNat := by omega
  rw [whole, Char.ofNat_toNat]

/-- **A character between quotes** stands for itself or is an escape that is read back. -/
theorem escape_cases (char : Char) :
    (escape char = [char] ∧ char ≠ '"' ∧ char ≠ '\\' ∧ ¬ char < ' ') ∨
      ∃ code, escape char = '\\' :: code ∧
        ∀ rest, readEscape? (code ++ rest) = some (char, rest) := by
  unfold escape
  split
  · next special => rcases special with rfl | rfl <;> exact .inr ⟨_, rfl, fun _ => rfl⟩
  next special =>
  split
  · next same => exact .inr ⟨_, rfl, fun _ => same ▸ rfl⟩
  split
  · next same => exact .inr ⟨_, rfl, fun _ => same ▸ rfl⟩
  split
  · next same => exact .inr ⟨_, rfl, fun _ => same ▸ rfl⟩
  split
  · next code =>
    rw [← Char.ofNat_toNat char, code]
    exact .inr ⟨_, rfl, fun _ => rfl⟩
  split
  · next code =>
    rw [← Char.ofNat_toNat char, code]
    exact .inr ⟨_, rfl, fun _ => rfl⟩
  split
  · next printable =>
    refine .inl ⟨rfl, fun same => special (.inl same), fun same => special (.inr same), ?_⟩
    exact Char.not_lt.mpr printable.1
  have valid := char.valid
  split
  · next small =>
    refine .inr ⟨_, rfl, fun rest => ?_⟩
    have read := readEscape?_unit small (by
      rcases valid with low | high
      · exact .inl low
      · exact .inr (Nat.le_of_lt_succ (Nat.succ_lt_succ high.1))) rest
    rwa [Char.ofNat_toNat] at read
  · next beyond =>
    let high := (char.toNat - 0x10000) / 0x400
    let low := (char.toNat - 0x10000) % 0x400
    refine .inr ⟨'u' :: (Text.Hex.digits 4 (0xD800 + high) ++ escapeUnit (0xDC00 + low)), rfl,
      fun rest => ?_⟩
    have bound : char.toNat < 0x110000 := by
      rcases valid with low | high
      · exact Nat.lt_trans low (by decide)
      · exact high.2
    rw [List.cons_append, List.append_assoc, readEscape?_pair (by omega) (by omega),
      ofNat_halves (by omega)]

theorem escape_ne_nil (char : Char) : escape char ≠ [] := by
  rcases escape_cases char with ⟨same, -⟩ | ⟨code, same, -⟩ <;> simp [same]

/-- Fuel for more than `size` steps is left for `size` steps after one of them. -/
theorem exists_less {size fuel : Nat} (enough : size < fuel) :
    ∃ less, fuel = less + 1 ∧ size ≤ less :=
  ⟨fuel - 1, by omega, by omega⟩

theorem length_le_escaped (text : List Char) : text.length ≤ (text.flatMap escape).length := by
  induction text with
  | nil => exact Nat.le_refl 0
  | cons char rest ih =>
    have nonempty : 0 < (escape char).length := List.length_pos_iff.mpr (escape_ne_nil char)
    rw [List.flatMap_cons, List.length_append, List.length_cons]
    omega

theorem readTextLoop_escaped (text rest : List Char) (fuel : Nat) (enough : text.length < fuel)
    (read : List Char) :
    readTextLoop fuel read (text.flatMap escape ++ '"' :: rest) =
      some (String.ofList (read.reverse ++ text), rest) := by
  induction text generalizing fuel read with
  | nil =>
    obtain ⟨fuel, rfl, -⟩ := exists_less enough
    rw [List.append_nil]
    rfl
  | cons char later ih =>
    obtain ⟨fuel, rfl, left⟩ := exists_less enough
    have next := ih fuel left (char :: read)
    rw [List.reverse_cons, List.append_assoc, List.singleton_append] at next
    rw [List.flatMap_cons, List.append_assoc]
    rcases escape_cases char with ⟨itself, quote, backslash, blank⟩ | ⟨code, escaped, back⟩
    · rw [itself, List.singleton_append]
      simpa [readTextLoop, quote, backslash, blank] using next
    · rw [escaped, List.cons_append]
      simpa [readTextLoop, back] using next

/-- **A text between quotes is read back.** -/
theorem readText_escaped (text : String) (rest : List Char) :
    readText (text.toList.flatMap escape ++ '"' :: rest) = some (text, rest) := by
  have enough := length_le_escaped text.toList
  unfold readText
  rw [readTextLoop_escaped _ _ _ (by rw [List.length_append]; omega), List.reverse_nil,
    List.nil_append, String.ofList_toList]

/-! ## Numbers -/

/-- The decimal digits of a number. -/
def decimal (number : Nat) : List Char := Nat.toDigits 10 number

theorem decimal_isDigit {number : Nat} {char : Char} (inside : char ∈ decimal number) :
    char.isDigit :=
  Nat.isDigit_of_mem_toDigits (by decide) (by decide) inside

theorem digitsValue_decimal (number : Nat) : digitsValue (decimal number) = number := by
  calc digitsValue (decimal number)
      = Nat.ofDigitChars 10 (decimal number) 0 := by
        simp only [digitsValue, Nat.ofDigitChars, Nat.mul_comm]
        rfl
    _ = number := Nat.ofDigitChars_ten_toDigits

/-- Digits after a value are below the next value with as many zeros. -/
theorem foldl_digits_lt {digits : List Char} (all : ∀ char ∈ digits, char.isDigit) (value : Nat) :
    digits.foldl (fun value digit => value * 10 + (digit.toNat - 48)) value <
      (value + 1) * Nat.pow 10 digits.length := by
  induction digits generalizing value with
  | nil => exact Nat.lt_of_lt_of_eq (Nat.lt_succ_self value) (Nat.mul_one _).symm
  | cons digit rest ih =>
    have later := ih (fun char inside => all char (List.mem_cons_of_mem _ inside))
      (value * 10 + (digit.toNat - 48))
    have nine : digit.toNat ≤ 57 :=
      (Char.isDigit_iff_toNat.mp (all digit List.mem_cons_self)).2
    calc
      _ < (value * 10 + (digit.toNat - 48) + 1) * Nat.pow 10 rest.length := later
      _ ≤ (value + 1) * 10 * Nat.pow 10 rest.length := Nat.mul_le_mul_right _ (by omega)
      _ = (value + 1) * (10 * Nat.pow 10 rest.length) := Nat.mul_assoc ..
      _ = (value + 1) * Nat.pow 10 (digit :: rest).length := by
        rw [show Nat.pow 10 (digit :: rest).length = _ from Nat.pow_succ']
        rfl

/-- A number has at most as many digits as the power of ten above it has zeros. -/
theorem length_decimal_le_iff {number size : Nat} (positive : 0 < size) :
    (decimal number).length ≤ size ↔ number < Nat.pow 10 size :=
  Nat.length_toDigits_le_iff (by decide) positive

/-- The first digit of a number with several digits is no zero. -/
theorem decimal_zero {number : Nat} {rest : List Char} (digits : decimal number = '0' :: rest) :
    rest = [] := by
  have all : ∀ char ∈ rest, char.isDigit := fun char inside =>
    decimal_isDigit (digits ▸ List.mem_cons_of_mem _ inside)
  have small : number < Nat.pow 10 rest.length := by
    calc
      number = digitsValue ('0' :: rest) := by rw [← digits, digitsValue_decimal]
      _ = digitsValue rest := rfl
      _ < (0 + 1) * Nat.pow 10 rest.length := foldl_digits_lt all 0
      _ = Nat.pow 10 rest.length := Nat.one_mul _
  cases rest with
  | nil => rfl
  | cons head tail =>
    have short := (length_decimal_le_iff (Nat.succ_pos _)).mpr small
    rw [digits, List.length_cons] at short
    exact absurd short (Nat.not_succ_le_self _)

/-- A power of ten has one digit more than its exponent says. -/
theorem length_decimal_pow (exponent : Nat) :
    (decimal (Nat.pow 10 exponent)).length = exponent + 1 := by
  have least : exponent < (decimal (Nat.pow 10 exponent)).length := by
    cases exponent with
    | zero => exact List.length_pos_iff.mpr Nat.toDigits_ne_nil
    | succ exponent =>
      refine Nat.not_le.mp fun short => ?_
      exact Nat.lt_irrefl _ ((length_decimal_le_iff (Nat.succ_pos _)).mp short)
  have most : (decimal (Nat.pow 10 exponent)).length ≤ exponent + 1 :=
    (length_decimal_le_iff (Nat.succ_pos _)).mpr
      (Nat.pow_lt_pow_right (by decide) (Nat.lt_succ_self exponent))
  exact Nat.le_antisymm most least

/-- What follows a number does not continue it. -/
def EndsNumber (rest : List Char) : Prop :=
  ∀ char ∈ rest.head?, char.isDigit = false ∧ char ≠ '.' ∧ char ≠ 'e' ∧ char ≠ 'E'

theorem readDigits_append {digits rest : List Char} (all : ∀ char ∈ digits, char.isDigit)
    (ends : EndsNumber rest) : readDigits (digits ++ rest) = (digits, rest) := by
  have stop : rest.takeWhile Char.isDigit = [] ∧ rest.dropWhile Char.isDigit = rest := by
    cases rest with
    | nil => exact ⟨rfl, rfl⟩
    | cons head tail =>
      have noDigit : ¬ head.isDigit := by simp [(ends head rfl).1]
      exact ⟨List.takeWhile_cons_of_neg noDigit, List.dropWhile_cons_of_neg noDigit⟩
  rw [readDigits, List.span_eq_takeWhile_dropWhile, List.takeWhile_append_of_pos all,
    List.dropWhile_append_of_pos all, stop.1, stop.2, List.append_nil]

theorem readFraction_end {rest : List Char} (ends : EndsNumber rest) :
    readFraction rest = ([], rest) := by
  cases rest with
  | nil => rfl
  | cons head tail =>
    have noPoint := (ends head rfl).2.1
    simp [readFraction, noPoint]

theorem readPower_end {rest : List Char} (ends : EndsNumber rest) :
    readPower rest = (none, rest) := by
  cases rest with
  | nil => rfl
  | cons head tail =>
    obtain ⟨-, -, noMark⟩ := ends head rfl
    simp [readPower, noMark]

theorem readWhole_decimal (number : Nat) {rest : List Char} (ends : EndsNumber rest) :
    readWhole (decimal number ++ rest) = some (decimal number, rest) := by
  have all : ∀ char ∈ decimal number, char.isDigit := fun char => decimal_isDigit
  have found := readDigits_append all ends
  cases digits : decimal number with
  | nil => exact absurd digits Nat.toDigits_ne_nil
  | cons head tail =>
    rw [digits] at found
    by_cases zero : head = '0'
    · subst zero
      rw [decimal_zero digits]
      rfl
    · rw [List.cons_append] at found ⊢
      unfold readWhole
      simp [found, zero]

/-- **The digits of a number are read back**, unless there are too many. -/
theorem readNumber_decimal (negative : Bool) (number : Nat) {rest : List Char}
    (ends : EndsNumber rest) : readNumber negative (decimal number ++ rest) =
      if Numeral.maxDigits < (decimal number).length then .error (.tooLong (decimal number).length)
      else .ok (.integer (if negative then -number else number), rest) := by
  rw [readNumber, readWhole_decimal number ends]
  dsimp only
  rw [readFraction_end ends]
  dsimp only
  rw [readPower_end ends]
  simp [digitsValue_decimal]

/-! ## Scalars -/

/-- Characters of different kinds are different. -/
theorem ne_of_kind {isKind : Char → Bool} {char other : Char} (kind : isKind char)
    (otherKind : isKind other = false) : char ≠ other := by
  rintro rfl
  rw [kind] at otherKind
  cases otherKind

theorem readPlain_digit {digit : Char} (isDigit : digit.isDigit) (rest : List Char) :
    readPlain (digit :: rest) = readNumber false (digit :: rest) := by
  have other {char : Char} := @ne_of_kind Char.isDigit digit char isDigit
  unfold readPlain
  simp [other]

theorem readPlain_minus {digit : Char} (isDigit : digit.isDigit) (rest : List Char) :
    readPlain ('-' :: digit :: rest) = readNumber true (digit :: rest) := by
  have other {char : Char} := @ne_of_kind Char.isDigit digit char isDigit
  unfold readPlain
  simp [other]

theorem plain_integer (value : Int) : plain (.integer value) =
    (if value < 0 then ['-'] else []) ++ decimal value.natAbs := by
  cases value with
  | ofNat size => simp [plain, toString, Int.repr, decimal]
  | negSucc size => simp [plain, toString, Int.repr, decimal, Int.negSucc_lt_zero]

end Json

/-- How many digits a number has, if these are too many. -/
def Scalar.excess? : Scalar → Option Nat
  | .integer value =>
    let digits := (Json.decimal value.natAbs).length
    if Numeral.maxDigits < digits then some digits else none
  | _ => none

/-- A value that is no number of double precision. -/
def Scalar.IsExact : Scalar → Prop
  | .real _ => False
  | _ => True

theorem Scalar.excess?_of_lt {value : Int} (small : value.natAbs < Nat.pow 10 Numeral.maxDigits) :
    (Scalar.integer value).excess? = none :=
  if_neg (Nat.not_lt.mpr ((Json.length_decimal_le_iff (by decide)).mpr small))

/-- A power of ten with too many digits. -/
theorem Scalar.excess?_pow {exponent : Nat} (large : Numeral.maxDigits ≤ exponent) :
    (Scalar.integer (Nat.pow 10 exponent : Nat)).excess? = some (exponent + 1) := by
  rw [Scalar.excess?, Int.natAbs_natCast, Json.length_decimal_pow]
  exact if_pos (Nat.lt_succ_of_le large)

namespace Json

/-- What is read where a number may have too many digits. -/
def checked {α : Type} (excess : Option Nat) (found : α) : Except Fault α :=
  match excess with
  | none => .ok found
  | some digits => .error (.tooLong digits)

theorem readPlain_integer (value : Int) {rest : List Char} (ends : EndsNumber rest) :
    readPlain (plain (.integer value) ++ rest) =
      checked (Scalar.integer value).excess? (.integer value, rest) := by
  have number (negative : Bool) := readNumber_decimal negative value.natAbs ends
  have isDigit {char : Char} := @decimal_isDigit value.natAbs char
  have verdict (negative : Bool)
      (sign : (if negative then -↑value.natAbs else ↑value.natAbs) = value) :
      readNumber negative (decimal value.natAbs ++ rest) =
        checked (Scalar.integer value).excess? (.integer value, rest) := by
    rw [number, sign, Scalar.excess?]
    split <;> rfl
  rw [plain_integer]
  cases digits : decimal value.natAbs with
  | nil => exact absurd digits Nat.toDigits_ne_nil
  | cons head tail =>
    have first : head.isDigit := isDigit (digits ▸ List.mem_cons_self)
    rw [digits] at verdict
    by_cases negative : value < 0
    · rw [if_pos negative, List.singleton_append, List.cons_append, List.cons_append,
        readPlain_minus first]
      exact verdict true (show -(value.natAbs : Int) = value by omega)
    · rw [if_neg negative, List.nil_append, List.cons_append, readPlain_digit first]
      exact verdict false (show (value.natAbs : Int) = value by omega)

/-- The characters that scalars without quotes begin with. -/
def beginsPlain (char : Char) : Bool := char.isDigit || ['-', 'n', 't', 'f'].contains char

theorem plain_begins {value : Scalar} (exact : value.IsExact)
    (noText : ∀ content, value ≠ .text content) :
    ∃ head rest, plain value = head :: rest ∧ beginsPlain head := by
  cases value with
  | null => exact ⟨_, _, rfl, rfl⟩
  | boolean truth => cases truth <;> exact ⟨_, _, rfl, rfl⟩
  | integer number =>
    rw [plain_integer]
    split
    · exact ⟨_, _, rfl, rfl⟩
    · cases digits : decimal number.natAbs with
      | nil => exact absurd digits Nat.toDigits_ne_nil
      | cons head tail =>
        have first : head.isDigit := decimal_isDigit (digits ▸ List.mem_cons_self)
        exact ⟨head, tail, rfl, by rw [beginsPlain, first, Bool.true_or]⟩
  | real number => cases exact
  | text content => exact absurd rfl (noText content)

/-- **A scalar without quotes is read back**, unless it is a number with too many digits. -/
theorem readPlain_plain {value : Scalar} (exact : value.IsExact)
    (noText : ∀ content, value ≠ .text content) {rest : List Char} (ends : EndsNumber rest) :
    readPlain (plain value ++ rest) = checked value.excess? (value, rest) := by
  cases value with
  | null => rfl
  | boolean truth => cases truth <;> rfl
  | integer number => exact readPlain_integer number ends
  | real number => cases exact
  | text content => exact absurd rfl (noText content)

end Json

end RouteTable
