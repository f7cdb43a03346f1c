/-
**JSON text is printable.**

Between quotes every character outside the range from the space to the tilde is an escape, so the
text of a datum holds nothing but that range and the blanks of its layout.

* `escape_printable`, `scalar_printable`: the characters of a scalar;
* `Layout.chars_hold`: what holds of printable characters and of the blanks of a layout holds of
  every character of a text;
* `line_printable`, `indented_printable`: the one-line text and the indented text.
-/

import RouteTable.Proofs.Json.RoundTrip

namespace RouteTable.Json

/-- A character of ASCII from the space to the tilde. -/
def Printable (char : Char) : Prop := ' ' ≤ char ∧ char ≤ '~'

instance (char : Char) : Decidable (Printable char) := inferInstanceAs (Decidable (_ ∧ _))

/-- A few characters, each looked at. -/
theorem printable_of_all {chars : List Char} (all : chars.all fun char => decide (Printable char)) :
    ∀ char ∈ chars, Printable char := fun char inside =>
  of_decide_eq_true (List.all_eq_true.mp all char inside)

theorem hexDigits_printable (width number : Nat) :
    ∀ char ∈ Text.Hex.digits width number, Printable char := by
  induction width generalizing number with
  | zero => exact nofun
  | succ width ih =>
    have last : ∀ value : Fin 16, Printable (Text.Hex.digit value) := by decide
    intro char inside
    rcases List.mem_append.mp inside with earlier | same
    · exact ih (number / 16) char earlier
    · rw [List.mem_singleton.mp same]
      exact last ⟨number % 16, Nat.mod_lt _ (by decide)⟩

theorem escapeUnit_printable (unit : Nat) : ∀ char ∈ escapeUnit unit, Printable char :=
  List.forall_mem_cons.mpr ⟨by decide,
    List.forall_mem_cons.mpr ⟨by decide, hexDigits_printable 4 unit⟩⟩

theorem escape_printable (char : Char) : ∀ part ∈ escape char, Printable part := by
  unfold escape
  split
  · next special => rcases special with rfl | rfl <;> exact printable_of_all rfl
  split
  · exact printable_of_all rfl
  split
  · exact printable_of_all rfl
  split
  · exact printable_of_all rfl
  split
  · exact printable_of_all rfl
  split
  · exact printable_of_all rfl
  split
  · next printable => exact List.forall_mem_singleton.mpr printable
  split
  · exact escapeUnit_printable _
  · exact List.forall_mem_append.mpr ⟨escapeUnit_printable _, escapeUnit_printable _⟩

theorem quote_printable (text : String) : ∀ char ∈ quote text, Printable char := by
  refine List.forall_mem_cons.mpr ⟨by decide, List.forall_mem_append.mpr ⟨?_, printable_of_all rfl⟩⟩
  intro char inside
  obtain ⟨original, -, escaped⟩ := List.mem_flatMap.mp inside
  exact escape_printable original char escaped

theorem decimal_printable (number : Nat) : ∀ char ∈ decimal number, Printable char := by
  intro char inside
  have digit := Char.isDigit_iff_toNat.mp (decimal_isDigit inside)
  exact ⟨Nat.le_trans (by decide) digit.1, Nat.le_trans digit.2 (by decide)⟩

theorem scalar_printable {value : Scalar} (exact : value.IsExact) :
    ∀ char ∈ scalar value, Printable char := by
  cases value with
  | null => exact printable_of_all rfl
  | boolean truth => cases truth <;> exact printable_of_all rfl
  | integer number =>
    show ∀ char ∈ plain (.integer number), Printable char
    rw [plain_integer]
    refine List.forall_mem_append.mpr ⟨?_, decimal_printable _⟩
    split <;> exact printable_of_all rfl
  | real number => cases exact
  | text content => exact quote_printable content

namespace Layout

/-- What holds of the blanks of a layout. -/
structure Blanks (layout : Layout) (holds : Char → Prop) : Prop where
  opening : ∀ level, ∀ char ∈ layout.opening level, holds char
  between : ∀ level, ∀ char ∈ layout.between level, holds char
  closing : ∀ level, ∀ char ∈ layout.closing level, holds char

section

variable {layout : Layout} {holds : Char → Prop} (printable : ∀ char, Printable char → holds char)

include printable

/-- A few printable characters before others. -/
theorem hold_append (first : List Char) {rest : List Char}
    (visible : ∀ char ∈ first, Printable char) (later : ∀ char ∈ rest, holds char) :
    ∀ char ∈ first ++ rest, holds char :=
  List.forall_mem_append.mpr ⟨fun char inside => printable char (visible char inside), later⟩

theorem key_hold (name : Scalar) {rest : List Char} (later : ∀ char ∈ rest, holds char) :
    ∀ char ∈ key name ++ ':' :: ' ' :: rest, holds char :=
  hold_append printable _ (quote_printable _)
    (hold_append printable [':', ' '] (printable_of_all rfl) later)

variable (blanks : layout.Blanks holds)

include blanks

mutual

/-- **What holds of printable characters and of the blanks of a layout** holds of every character
of a text. -/
theorem chars_hold : ∀ (datum : Datum) (level : Nat), datum.IsExact →
    ∀ char ∈ layout.chars level datum, holds char
  | .scalar _, _, exact => fun char inside =>
    printable char (scalar_printable exact char inside)
  | .list [], _, _ =>
    hold_append printable ['[', ']'] (printable_of_all rfl) nofun
  | .list (first :: later), level, exact =>
    hold_append printable ['['] (printable_of_all rfl) <|
      List.forall_mem_append.mpr ⟨blanks.opening level, List.forall_mem_append.mpr
        ⟨chars_hold first (level + 1) exact.1, items_hold later level exact.2⟩⟩
  | .map [], _, _ =>
    hold_append printable ['\x7b', '\x7d'] (printable_of_all rfl) nofun
  | .map ((name, value) :: later), level, exact =>
    hold_append printable ['\x7b'] (printable_of_all rfl) <|
      List.forall_mem_append.mpr ⟨blanks.opening level, key_hold printable name <|
        List.forall_mem_append.mpr
          ⟨chars_hold value (level + 1) exact.2.1, entries_hold later level exact.2.2⟩⟩

theorem items_hold : ∀ (list : List Datum) (level : Nat), Datum.ItemsExact list →
    ∀ char ∈ layout.items level list, holds char
  | [], level, _ => List.forall_mem_append.mpr ⟨blanks.closing level,
      hold_append printable [']'] (printable_of_all rfl) nofun⟩
  | first :: later, level, exact =>
    hold_append printable [','] (printable_of_all rfl) <|
      List.forall_mem_append.mpr ⟨blanks.between level, List.forall_mem_append.mpr
        ⟨chars_hold first (level + 1) exact.1, items_hold later level exact.2⟩⟩

theorem entries_hold : ∀ (list : List (Scalar × Datum)) (level : Nat), Datum.EntriesExact list →
    ∀ char ∈ layout.entries level list, holds char
  | [], level, _ => List.forall_mem_append.mpr ⟨blanks.closing level,
      hold_append printable ['\x7d'] (printable_of_all rfl) nofun⟩
  | (name, value) :: later, level, exact =>
    hold_append printable [','] (printable_of_all rfl) <|
      List.forall_mem_append.mpr ⟨blanks.between level, key_hold printable name <|
        List.forall_mem_append.mpr
          ⟨chars_hold value (level + 1) exact.1, entries_hold later level exact.2⟩⟩

end

end

end Layout

/-- **The one-line text of a datum is printable.** -/
theorem line_printable {datum : Datum} (exact : datum.IsExact) :
    ∀ char ∈ (line datum).toList, Printable char := by
  have blanks : Layout.line.Blanks Printable :=
    ⟨fun _ => List.forall_mem_nil _, fun _ => List.forall_mem_singleton.mpr (by decide),
      fun _ => List.forall_mem_nil _⟩
  rw [line, String.toList_ofList, ← Layout.chars_line 0 datum]
  exact Layout.chars_hold (fun _ => id) blanks datum 0 exact

/-- **The indented text of a datum is printable**, its line feeds apart. -/
theorem indented_printable {datum : Datum} (exact : datum.IsExact) :
    ∀ char ∈ (indented datum).toList, Printable char ∨ char = '\n' := by
  have spaces (level : Nat) : ∀ char ∈ newline level, Printable char ∨ char = '\n' := by
    intro char inside
    rcases List.mem_cons.mp inside with rfl | space
    · exact .inr rfl
    · rw [List.eq_of_mem_replicate space]
      exact .inl (by decide)
  have blanks : Layout.indented.Blanks fun char => Printable char ∨ char = '\n' :=
    ⟨fun level => spaces (level + 1), fun level => spaces (level + 1), spaces⟩
  rw [indented, String.toList_ofList, ← Layout.chars_indented 0 datum]
  exact Layout.chars_hold (fun _ => .inl) blanks datum 0 exact

end RouteTable.Json
