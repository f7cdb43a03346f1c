/-
**Paths and targets of direct routes.**

A path such as `posts/:id(.:format)` is read for the controller and the action it suggests, and a
target such as `posts#show` for those it names.

* `mem_segments_ne_slash`: no segment of a path holds a slash.
-/

import RouteTable.Text.Pieces
import RouteTable.Route

namespace RouteTable.RoutePath

/-- The parts between slashes, parentheses and dots. -/
def tokens (path : String) : List String :=
  (Text.words (fun char => char = '/' || char = '(' || char = ')' || char = '.') path.toList).map
    String.ofList

/-- Whether a segment is filled in by the request: `:id` or `*rest`. -/
def isDynamic (segment : String) : Bool :=
  match segment.toList with
  | ':' :: _ => true
  | '*' :: _ => true
  | _ => false

/-- The nonempty parts between slashes. -/
def segments (path : String) : List String :=
  (Text.words (· = '/') path.toList).map String.ofList

/-- The placeholders of the route that reaches every controller. -/
def catchAllPlaceholders : List String := [":controller", ":action", ":id", ":format"]

/-- Whether a path is `:controller(/:action(/:id(.:format)))` or a spelling of it. -/
def isCatchAll (path : String) : Bool :=
  (tokens path).contains ":controller" && (tokens path).all (catchAllPlaceholders.contains ·)

/-- `posts#create` names a controller and an action; both must be there. -/
def splitTarget? (target : String) : Option (String × String) :=
  match Text.cutAt '#' target.toList with
  | some (controller, action) =>
    if controller.isEmpty || action.isEmpty then none
    else some (String.ofList controller, String.ofList action)
  | none => none

/-- `admin/posts/show` suggests the controller `admin/posts` and the action `show`; a path with a
dynamic or optional part suggests nothing. -/
def splitPath? (path : String) : Option (String × String) :=
  let parts := segments path
  if parts.length < 2 || parts.any fun part => isDynamic part || '(' ∈ part.toList then none
  else parts.getLast?.map fun action => ("/".intercalate parts.dropLast, action)

/-- The action of a route that names a controller and no action. -/
def defaultAction? (path : String) (legacy : Bool) : Option String :=
  if (tokens path).contains ":action" then some Endpoint.wildcard
  else if legacy then some "index"
  else (segments path).getLast?.filter fun last => !isDynamic last

theorem mem_segments_ne_slash {path segment : String} (member : segment ∈ segments path) :
    '/' ∉ segment.toList := by
  simp only [segments, List.mem_map, Text.words, List.mem_filter] at member
  obtain ⟨piece, ⟨inside, _⟩, rfl⟩ := member
  intro slash
  rw [String.toList_ofList] at slash
  simpa using Text.not_mem_of_mem_pieces inside slash

end RouteTable.RoutePath
