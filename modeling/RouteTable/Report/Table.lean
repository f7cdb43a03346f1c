/-
**The table of routes.**

A table has a row for each route up to a limit, and one more row that says how many routes it
leaves out. Cells may hold marks for colours.

* `firstItems_within`: a limit that is not reached leaves nothing out;
* `ofRoutes_short`: a table within its limit has a row for each route.
-/

import RouteTable.Path
import RouteTable.Route

namespace RouteTable

/-- A table of texts. -/
structure Table where
  title : String
  headers : List String
  rows : List (List String)
deriving DecidableEq, Repr

/-- The first items of a list up to a limit; a negative limit counts from the end. -/
def firstItems {α : Type} (limit : Int) (items : List α) : List α :=
  items.take (if limit < 0 then (items.length + limit).toNat else limit.toNat)

theorem firstItems_within {α : Type} {limit : Nat} {items : List α}
    (within : items.length ≤ limit) : firstItems limit items = items := by
  rw [firstItems, if_neg (by omega)]
  exact List.take_of_length_le (by simpa using within)

namespace Table

/-- How many routes a table shows unless another limit is given. -/
def defaultLimit : Int := 200

/-- The place of a route: the last name of its file and its line. -/
def place (route : Route) : String :=
  match route.file.filter (· ≠ "") with
  | some file => s!"{(Path.ofText file).lastName}:{route.line}"
  | none => "-"

/-- The action of a route; one that stands for all actions is marked. -/
def action (route : Route) : String :=
  if route.isWildcard then s!"[yellow]{route.action}[/yellow]" else route.action

/-- The row of a route with its number. -/
def row (number : Nat) (route : Route) : List String :=
  [toString number, route.controller.qualifiedName, action route, place route]

/-- The table of routes. -/
def ofRoutes (limit : Int) (routes : List Route) : Table where
  title := " Prepared Routes"
  headers := ["#", "Controller", "Action", "File:Line"]
  rows :=
    (firstItems limit routes).zipIdx.map (fun numbered => row (numbered.2 + 1) numbered.1) ++
      if limit < routes.length then [["...", s!"... +{routes.length - limit} more", "", ""]]
      else []

theorem ofRoutes_short {limit : Nat} {routes : List Route} (within : routes.length ≤ limit) :
    (ofRoutes limit routes).rows.length = routes.length := by
  have kept : ¬ (limit : Int) < routes.length := by omega
  simp [ofRoutes, firstItems_within within, kept]

end Table

end RouteTable
