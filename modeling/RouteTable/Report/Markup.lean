/-
**Marked text.**

A mark such as `[bold]` or `[/red]` stands in brackets and begins with a small letter, a slash, an
`@` or a `#`. A backslash before it makes it plain text, and two backslashes stand for one.

* `plain_unmarked`: text without brackets and backslashes stands for itself.
-/

namespace RouteTable.Markup

/-- The number of characters of a mark after its opening bracket, if there is one. -/
def markLength? : List Char → Option Nat
  | first :: rest =>
    if first.isLower ∨ first = '#' ∨ first = '/' ∨ first = '@' then
      let inner := rest.takeWhile fun char => char ≠ '[' && char ≠ ']'
      if rest[inner.length]? = some ']' then some (inner.length + 2) else none
    else none
  | [] => none

/-- A text without its marks; `backslashes` stand before it, and its first `skipped` characters
belong to a mark. -/
def plainLoop (backslashes skipped : Nat) : List Char → List Char
  | [] => List.replicate backslashes '\\'
  | char :: rest =>
    if skipped ≠ 0 then plainLoop 0 (skipped - 1) rest
    else if char = '\\' then plainLoop (backslashes + 1) 0 rest
    else if char ≠ '[' then List.replicate backslashes '\\' ++ char :: plainLoop 0 0 rest
    else
      match markLength? rest with
      | none => List.replicate backslashes '\\' ++ char :: plainLoop 0 0 rest
      | some length =>
        List.replicate (backslashes / 2) '\\' ++
          if backslashes % 2 = 0 then plainLoop 0 length rest else char :: plainLoop 0 0 rest

/-- A text without its marks. -/
def plain (text : String) : String := String.ofList (plainLoop 0 0 text.toList)

theorem plain_unmarked {text : List Char} (unmarked : ∀ char ∈ text, char ≠ '[' ∧ char ≠ '\\') :
    plainLoop 0 0 text = text := by
  induction text with
  | nil => rfl
  | cons char rest ih =>
    have first := unmarked char List.mem_cons_self
    rw [plainLoop, if_neg (by simp), if_neg first.2, if_pos first.1,
      ih fun other inside => unmarked other (List.mem_cons_of_mem _ inside)]
    rfl

end RouteTable.Markup
