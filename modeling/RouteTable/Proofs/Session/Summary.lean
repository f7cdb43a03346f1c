/-
**The summary shares the routes out among the controllers.**

The summary of a session counts the routes of each controller by its full name. Every route is
counted once, so the counts add up to the number of routes, and the names come in the order in
which they appear first. Where no controller has a colon in a segment, different controllers have
different names and are counted apart.

* `keys_countByController`: the names in order of first appearance;
* `getD_countByController`: the count of each name;
* `Summary.Partitions`: what a summary says of the routes;
* `Session.summary_partitions`: the summary of every session says it of the routes of the session.
-/

import RouteTable.Session
import RouteTable.Proofs.Assoc
import RouteTable.Proofs.Routes.Naming
import Mathlib.Algebra.GroupWithZero.Nat
import Mathlib.Data.Finset.Card

namespace RouteTable

/-- The full names of the controllers of routes, one for each route. -/
def controllerNames (routes : List Route) : List String :=
  routes.map fun route => route.controller.qualifiedName

/-- One more route of a controller. -/
def countRoute (counts : Assoc String Nat) (route : Route) : Assoc String Nat :=
  counts.put route.controller.qualifiedName
    ((counts.get? route.controller.qualifiedName).getD 0 + 1)

theorem countByController_eq (routes : List Route) :
    countByController routes = routes.foldl countRoute [] := rfl

theorem keys_countByController (routes : List Route) :
    (countByController routes).keys = (controllerNames routes).eraseDups :=
  Assoc.keys_foldl_put (fun route : Route => route.controller.qualifiedName)
    (fun counts route => (counts.get? route.controller.qualifiedName).getD 0 + 1) routes

theorem countByController_nodup (routes : List Route) : (countByController routes).keys.Nodup :=
  Assoc.keys_foldl_put_nodup (fun route : Route => route.controller.qualifiedName)
    (fun counts route => (counts.get? route.controller.qualifiedName).getD 0 + 1) routes .nil

/-- A route is counted for its own controller. -/
theorem getD_countRoute (counts : Assoc String Nat) (route : Route) (name : String) :
    ((countRoute counts route).get? name).getD 0 =
      (counts.get? name).getD 0 + (controllerNames [route]).count name := by
  rw [countRoute, Assoc.get?_put]
  by_cases same : route.controller.qualifiedName = name
  · subst same
    simp [controllerNames]
  · simp [controllerNames, same]

theorem getD_foldl_countRoute (routes : List Route) (counts : Assoc String Nat) (name : String) :
    ((routes.foldl countRoute counts).get? name).getD 0 =
      (counts.get? name).getD 0 + (controllerNames routes).count name := by
  induction routes generalizing counts with
  | nil => rfl
  | cons route rest ih =>
    have split : controllerNames (route :: rest) =
        controllerNames [route] ++ controllerNames rest := rfl
    rw [List.foldl_cons, ih, getD_countRoute, split, List.count_append, Nat.add_assoc]

theorem getD_countByController (routes : List Route) (name : String) :
    ((countByController routes).get? name).getD 0 = (controllerNames routes).count name := by
  rw [countByController_eq, getD_foldl_countRoute]
  exact Nat.zero_add _

/-- An entry of the counts has the count of its name, which some route has. -/
theorem mem_countByController {routes : List Route} {entry : String × Nat}
    (listed : entry ∈ countByController routes) :
    entry.2 = (controllerNames routes).count entry.1 ∧ 1 ≤ entry.2 := by
  have counted : entry.2 = (controllerNames routes).count entry.1 := by
    rw [← getD_countByController, Assoc.get?_of_mem (countByController_nodup routes) listed,
      Option.getD_some]
  have named : entry.1 ∈ controllerNames routes :=
    (countByController_keys routes entry.1).mp (List.mem_map_of_mem listed)
  exact ⟨counted, counted ▸ List.count_pos_iff.mpr named⟩

/-- Controllers without colons are counted apart. -/
theorem length_countByController {routes : List Route}
    (plain : ∀ route ∈ routes, route.controller.IsPlain) :
    (countByController routes).length =
      (routes.map fun route => route.controller).toFinset.card := by
  have names : (countByController routes).keys.toFinset =
      (routes.map fun route => route.controller).toFinset.image ControllerId.qualifiedName := by
    ext name
    simp [countByController_keys]
  have apart : Set.InjOn ControllerId.qualifiedName
      ((routes.map fun route => route.controller).toFinset : Set ControllerId) := by
    intro first inside second also same
    have known {controller : ControllerId}
        (listed : controller ∈ (routes.map fun route => route.controller).toFinset) :
        controller.IsPlain := by
      obtain ⟨route, member, rfl⟩ := List.mem_map.mp (List.mem_toFinset.mp listed)
      exact plain route member
    exact (ControllerId.qualifiedName_inj (known inside) (known also)).mp same
  calc (countByController routes).length
      = (countByController routes).keys.length := (List.length_map ..).symm
    _ = (countByController routes).keys.toFinset.card :=
        (List.toFinset_card_of_nodup (countByController_nodup routes)).symm
    _ = (routes.map fun route => route.controller).toFinset.card := by
        rw [names, Finset.card_image_of_injOn apart]

/-- **What a summary says of the routes.** The names of its controllers are different and come in
order of first appearance. Each has the number of its routes, which is one at least, and the numbers
add up to the number of all routes. Without colons in the segments of controllers, as many
controllers are counted as there are. -/
structure Summary.Partitions (summary : Summary) (routes : List Route) : Prop where
  distinct : summary.byController.keys.Nodup
  ordered : summary.byController.keys = (controllerNames routes).eraseDups
  counted : ∀ entry ∈ summary.byController,
    entry.2 = (routes.filter fun route => route.controller.qualifiedName = entry.1).length ∧
      1 ≤ entry.2
  shared : (summary.byController.map Prod.snd).sum = summary.total
  controllers : summary.byController.length = summary.controllers
  total : summary.total = routes.length
  wildcard : summary.wildcard = (routes.filter fun route => route.action = "*").length
  identified : (∀ route ∈ routes, route.controller.IsPlain) →
    summary.controllers = (routes.map fun route => route.controller).toFinset.card

theorem Summary.sumOfCounts_eq (counts : Assoc String Nat) :
    sumOfCounts counts = (counts.map Prod.snd).sum := by
  induction counts with
  | nil => rfl
  | cons entry rest ih => rw [List.map_cons, List.sum_cons, ← ih]; rfl

theorem count_controllerNames (routes : List Route) (name : String) :
    (controllerNames routes).count name =
      (routes.filter fun route => route.controller.qualifiedName = name).length := by
  rw [controllerNames, List.count, List.countP_map, List.countP_eq_length_filter]
  rfl

/-- **The summary shares the routes out among the controllers**, whatever routes a session has. -/
theorem Session.summary_partitions (session : Session) :
    session.summary.Partitions session.routes where
  distinct := countByController_nodup session.routes
  ordered := keys_countByController session.routes
  counted entry listed := by
    rw [← count_controllerNames]
    exact mem_countByController listed
  shared := by
    rw [← Summary.sumOfCounts_eq]
    exact (Summary.ofRoutes_total_eq_sum session.counts session.routes).symm
  controllers := rfl
  total := rfl
  wildcard := List.countP_eq_length_filter
  identified := length_countByController

end RouteTable
