/-
**Blank characters.**

The characters that count as blank in a text, within ASCII and beyond it.

* `isBlank_of_isWhitespace`: the blanks of ASCII text are among them.
-/

import RouteTable.Text.Pieces

namespace RouteTable.Text

/-- The ranges of the code points of blank characters. -/
def blankRanges : List (Nat × Nat) :=
  [ (0x9, 0xD), (0x1C, 0x20), (0x85, 0x85), (0xA0, 0xA0), (0x1680, 0x1680), (0x2000, 0x200A),
    (0x2028, 0x2029), (0x202F, 0x202F), (0x205F, 0x205F), (0x3000, 0x3000) ]

/-- Whether a character is blank. -/
def isBlank (char : Char) : Bool :=
  blankRanges.any fun range => range.1 ≤ char.toNat && char.toNat ≤ range.2

/-- A text without the blanks at both ends. -/
def trimmed (text : String) : String := String.ofList (strip isBlank text.toList)

theorem isBlank_of_isWhitespace {char : Char} (blank : char.isWhitespace = true) :
    isBlank char = true := by
  simp only [Char.isWhitespace, Bool.or_eq_true, decide_eq_true_eq] at blank
  rcases blank with ((rfl | rfl) | rfl) | rfl <;> decide

end RouteTable.Text
