/-
**Controller names.**

A name such as `high_voltage/pages` is cut into segments at `/` and `::`, and each segment is
camel-cased: `HighVoltage::PagesController`.

* `camelize_nil`: a word without a part between underscores becomes empty.
-/

import RouteTable.Text.Pieces
import RouteTable.Text.Uppercase

namespace RouteTable

/-- A word with its first character in upper case. -/
def capitalized : List Char → List Char
  | [] => []
  | first :: rest => Text.uppercase first ++ rest

/-- A word with its parts between underscores capitalized and joined. -/
def camelizeChars (word : List Char) : List Char :=
  (Text.words (· = '_') word).flatMap capitalized

theorem camelize_nil {word : List Char} (hollow : Text.words (· = '_') word = []) :
    camelizeChars word = [] := by
  rw [camelizeChars, hollow, List.flatMap_nil]

/-- `blog_posts` becomes `BlogPosts`. -/
def camelize (word : String) : String := String.ofList (camelizeChars word.toList)

/-- The pieces of a path between `/` and `::`, empty ones included. -/
def pathPieces : List Char → List (List Char)
  | [] => [[]]
  | '/' :: rest => [] :: pathPieces rest
  | ':' :: ':' :: rest => [] :: pathPieces rest
  | head :: rest =>
    match pathPieces rest with
    | [] => [[head]]
    | piece :: others => (head :: piece) :: others

/-- `high_voltage/pages` has the segments `HighVoltage` and `Pages`. -/
def camelizeSegments (path : String) : List String :=
  ((pathPieces path.toList).filter fun piece => !piece.isEmpty).map fun piece =>
    String.ofList (camelizeChars piece)

/-- A controller in its namespaces, outermost first. -/
structure ControllerId where
  namespaces : List String
  name : String
deriving DecidableEq, Repr, Inhabited

namespace ControllerId

/-- The full name of the class: `Admin::PostsController`. -/
def qualifiedName (controller : ControllerId) : String :=
  "::".intercalate (controller.namespaces ++ [controller.name ++ "Controller"])

/-- The controller that a name stands for inside outer namespaces; its last segment is the base name. -/
def ofName? (outer : List String) (name : String) : Option ControllerId :=
  let segments := camelizeSegments name
  segments.getLast?.map fun base => ⟨outer ++ segments.dropLast, base⟩

end ControllerId

end RouteTable
