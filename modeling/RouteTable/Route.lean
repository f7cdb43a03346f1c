/-
**Routes and the ordered list of them.**

A route leads to an endpoint, a controller with an action; where it was declared is carried along
and plays no part in what it is. Routes are kept in the order in which they were found, and the
same endpoint may be listed twice.

* `countByController_keys`: the summary names exactly the controllers that have a route.
-/

import RouteTable.Assoc
import RouteTable.Controller

namespace RouteTable

/-- A controller and one of its actions. -/
structure Endpoint where
  controller : ControllerId
  action : String
deriving DecidableEq, Repr, Inhabited

/-- An endpoint with the place of its declaration. -/
structure Route extends Endpoint where
  file : Option String
  line : Int
deriving DecidableEq, Repr, Inhabited

namespace Endpoint

/-- The action that stands for every action of its controller. -/
def wildcard : String := "*"

/-- Whether every action is meant. -/
def isWildcard (endpoint : Endpoint) : Bool := endpoint.action = wildcard

/-- `Admin::PostsController#index`. -/
def text (endpoint : Endpoint) : String :=
  endpoint.controller.qualifiedName ++ "#" ++ endpoint.action

end Endpoint

/-- The routes in the order of their declaration. -/
abbrev Registry : Type := Array Route

/-- How many routes each controller has, in order of first appearance. -/
def countByController (routes : List Route) : Assoc String Nat :=
  routes.foldl (fun counts route =>
    let name := route.controller.qualifiedName
    counts.put name ((counts.get? name).getD 0 + 1)) []

theorem countByController_keys (routes : List Route) (name : String) :
    name ∈ (countByController routes).keys ↔
      name ∈ routes.map fun route => route.controller.qualifiedName := by
  have general (counts : Assoc String Nat) :
      name ∈ (routes.foldl (fun counts route =>
        let name := route.controller.qualifiedName
        Assoc.put counts name ((Assoc.get? counts name).getD 0 + 1)) counts).keys ↔
      name ∈ counts.keys ∨ name ∈ routes.map fun route => route.controller.qualifiedName := by
    induction routes generalizing counts with
    | nil => simp
    | cons route rest ih =>
      rw [List.foldl_cons, ih, Assoc.keys_put]
      split <;> simp_all <;> grind
  simpa [countByController, Assoc.keys] using general []

end RouteTable
