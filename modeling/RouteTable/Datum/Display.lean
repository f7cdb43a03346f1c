/-
**A datum in a message.**

A text stands for itself in a message. Inside a list or a map it is quoted, and the other scalars
are written as words and numbers.
-/

import RouteTable.Datum
import RouteTable.Text.Quoted

namespace RouteTable

/-- A scalar as an item of a list or a map. -/
def Scalar.displayed : Scalar → String
  | .null => "None"
  | .boolean true => "True"
  | .boolean false => "False"
  | .integer value => toString value
  | .real value => value.text
  | .text content => Text.quoted content

namespace Datum

mutual

/-- A datum as an item of a list or a map. -/
def displayed : Datum → String
  | .scalar value => value.displayed
  | .list items => "[" ++ ", ".intercalate (displayedItems items) ++ "]"
  | .map entries => "\x7b" ++ ", ".intercalate (displayedEntries entries) ++ "\x7d"
termination_by structural datum => datum

/-- The items of a list. -/
def displayedItems : List Datum → List String
  | [] => []
  | item :: rest => displayed item :: displayedItems rest
termination_by structural items => items

/-- The entries of a map. -/
def displayedEntries : List (Scalar × Datum) → List String
  | [] => []
  | (key, value) :: rest => s!"{key.displayed}: {displayed value}" :: displayedEntries rest
termination_by structural entries => entries

end

/-- A datum in a message. -/
def message : Datum → String
  | .text content => content
  | other => displayed other

end Datum

end RouteTable
