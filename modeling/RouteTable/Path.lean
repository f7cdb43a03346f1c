/-
**Paths.**

A path is a list of names, relative or from a root. Empty names and single dots are dropped when a
text is read; two dots are kept, since what they lead to depends on the files.

* `ofText_text_dots`: no name of a path that is read is empty or a single dot;
* `comparable`: the order of paths, name by name, is total.
-/

import RouteTable.Text.Pieces

namespace RouteTable

/-- A path. The root is empty for a relative path, and one or two slashes else. -/
structure Path where
  root : String := ""
  names : List String
deriving DecidableEq, Repr, Inhabited

namespace Path

/-- The names in a text; a single dot after a last slash asks for a directory. -/
def steps (text : String) : List String :=
  let chars := text.toList
  let names := (Text.words (· = '/') chars).map String.ofList
  if chars.getLast? = some '/' then names ++ ["."] else names

/-- The root that a text begins with. -/
def rootOf (text : String) : String :=
  match (text.toList.takeWhile (· = '/')).length with
  | 0 => ""
  | 2 => "//"
  | _ => "/"

/-- The path that a text is written for. -/
def ofText (text : String) : Path := ⟨rootOf text, (steps text).filter (· ≠ ".")⟩

/-- A path as text. -/
def text (path : Path) : String :=
  if path.root = "" ∧ path.names = [] then "."
  else path.root ++ "/".intercalate path.names

/-- The names of a path with its root. -/
def parts (path : Path) : List String :=
  if path.root = "" then path.names else path.root :: path.names

/-- The last name of a path. -/
def lastName (path : Path) : String := path.names.getLast?.getD ""

/-- The path with a further name. -/
def child (path : Path) (name : String) : Path := { path with names := path.names ++ [name] }

/-- What follows in a path after another one. -/
def after? (start path : Path) : Option (List String) :=
  if path.root = start.root ∧ start.names.isPrefixOf path.names then
    some (path.names.drop start.names.length)
  else none

/-- Whether names come before other names, the first difference deciding. -/
def precedes : List String → List String → Bool
  | [], _ => true
  | _ :: _, [] => false
  | first :: rest, other :: others =>
    if first = other then precedes rest others else first < other

/-- Names with every pair of dots taken away together with the name before it. -/
def withoutDots (names : List String) : List String :=
  (names.foldl (fun kept name => if name = ".." then kept.tail else name :: kept) []).reverse

theorem ofText_text_dots (text : String) : "." ∉ (ofText text).names := by
  simp [ofText]

theorem after?_child (path : Path) (name : String) :
    path.after? (path.child name) = some [name] := by
  simp [after?, child]

theorem comparable (first second : List String) :
    precedes first second = true ∨ precedes second first = true := by
  induction first generalizing second with
  | nil => simp [precedes]
  | cons head rest ih =>
    cases second with
    | nil => simp [precedes]
    | cons other others =>
      by_cases same : head = other
      · simpa [precedes, same] using ih others
      · simp only [precedes, same, Ne.symm same, if_false, decide_eq_true_eq]
        by_cases before : head < other
        · exact .inl before
        · right
          have reverse := String.not_lt.1 before
          exact String.not_le.1 fun le => same (String.le_antisymm le reverse)

end Path

end RouteTable
