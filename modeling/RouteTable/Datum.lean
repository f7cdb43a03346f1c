/-
**Data as configuration files and reports hold it.**

A datum is a scalar, a list or a map. The keys of a map are scalars and keep their order.
-/

import RouteTable.Assoc
import RouteTable.Number.Double

namespace RouteTable

/-- A value without parts. -/
inductive Scalar
  | null
  | boolean (value : Bool)
  | integer (value : Int)
  | real (value : Double)
  | text (content : String)
deriving DecidableEq, Repr, Inhabited

/-- A value of a configuration file or a report. -/
inductive Datum
  | scalar (value : Scalar)
  | list (items : List Datum)
  | map (entries : List (Scalar × Datum))
deriving Repr, Inhabited

namespace Datum

/-- Nothing. -/
@[match_pattern] abbrev null : Datum := .scalar .null

/-- A truth value. -/
@[match_pattern] abbrev boolean (value : Bool) : Datum := .scalar (.boolean value)

/-- A whole number. -/
@[match_pattern] abbrev integer (value : Int) : Datum := .scalar (.integer value)

/-- A text. -/
@[match_pattern] abbrev text (content : String) : Datum := .scalar (.text content)

/-- A natural number. -/
abbrev natural (value : Nat) : Datum := .integer value

/-- A text or nothing. -/
def optionalText : Option String → Datum
  | none => .null
  | some content => .text content

/-- A list of texts. -/
def texts (contents : List String) : Datum := .list (contents.map .text)

/-- A map with text keys. -/
def object (fields : List (String × Datum)) : Datum :=
  .map (fields.map fun field => (.text field.1, field.2))

/-- The value that a map has for a text key. -/
def get? : Datum → String → Option Datum
  | .map entries, key => Assoc.get? entries (Scalar.text key)
  | _, _ => none

end Datum

namespace Scalar

/-- Whether a value counts as true: nothing, false, zero and the empty text do not. -/
def isTruthy : Scalar → Bool
  | .null => false
  | .boolean value => value
  | .integer value => value ≠ 0
  | .real (.finite _ mantissa _) => mantissa ≠ 0
  | .real _ => true
  | .text content => !content.isEmpty

/-- The whole number that a value equals; truth values count as zero and one. -/
def toInt? : Scalar → Option Int
  | .boolean value => some (if value then 1 else 0)
  | .integer value => some value
  | .real value => value.toInt?
  | _ => none

/-- Whether two values are equal; numbers and truth values are compared as numbers. -/
def same (first second : Scalar) : Bool :=
  match first.toInt?, second.toInt? with
  | some left, some right => left = right
  | _, _ => first = second

end Scalar

/-- Whether a value counts as true; a list or a map does if it has an entry. -/
def Datum.isTruthy : Datum → Bool
  | .scalar value => value.isTruthy
  | .list items => !items.isEmpty
  | .map entries => !entries.isEmpty

end RouteTable
