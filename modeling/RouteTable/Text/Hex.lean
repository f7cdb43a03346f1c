/-
**Hexadecimal digits of fixed width.**

* `ofDigits_digits`: the number that `width` digits were written for is read back, if it has no
  more than `width` digits.
-/

namespace RouteTable.Text.Hex

/-- The digit of a value below sixteen, in lower case. -/
def digit (value : Nat) : Char :=
  if value < 10 then Char.ofNat (48 + value) else Char.ofNat (87 + value)

/-- The value of a digit of either case. -/
def value? (char : Char) : Option Nat :=
  if '0' ≤ char ∧ char ≤ '9' then some (char.toNat - 48)
  else if 'a' ≤ char ∧ char ≤ 'f' then some (char.toNat - 87)
  else if 'A' ≤ char ∧ char ≤ 'F' then some (char.toNat - 55)
  else none

/-- The last `width` digits of a number, most significant first. -/
def digits : Nat → Nat → List Char
  | 0, _ => []
  | width + 1, number => digits width (number / 16) ++ [digit (number % 16)]

/-- The number that digits are written for, after a number already read. -/
def ofDigits? (read : Nat) : List Char → Option Nat
  | [] => some read
  | head :: rest => do ofDigits? (read * 16 + (← value? head)) rest

theorem value?_digit : ∀ value : Fin 16, value? (digit value) = some value.val := by decide

theorem ofDigits?_append (read : Nat) (first second : List Char) :
    ofDigits? read (first ++ second) =
      (ofDigits? read first).bind fun number => ofDigits? number second := by
  induction first generalizing read with
  | nil => rfl
  | cons head rest ih =>
    rw [List.cons_append, ofDigits?, ofDigits?]
    cases value? head with
    | none => rfl
    | some value => exact ih _

theorem ofDigits_digits (width number : Nat) (fits : number < Nat.pow 16 width) :
    ofDigits? 0 (digits width number) = some number := by
  induction width generalizing number with
  | zero => simp_all [digits, ofDigits?]
  | succ width ih =>
    have small : number / 16 < Nat.pow 16 width := by
      rw [Nat.div_lt_iff_lt_mul (by decide)]
      exact fits
    have last := value?_digit ⟨number % 16, Nat.mod_lt _ (by decide)⟩
    simp only at last
    rw [digits, ofDigits?_append, ih _ small]
    simp only [Option.bind_some, ofDigits?, last, bind]
    congr 1
    omega

end RouteTable.Text.Hex
