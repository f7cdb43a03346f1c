/-
**The summary of a run.**

The summary counts the files by what became of them and the routes by their controllers.

* `ofRoutes_total_eq_sum`: every route is counted for exactly one controller.
-/

import RouteTable.Route

namespace RouteTable

/-- How many files were read, left out and not readable. -/
structure FileCounts where
  prepared : Nat := 0
  skipped : Nat := 0
  errored : Nat := 0
deriving DecidableEq, Repr

/-- The counts of a run; the controllers come in order of first appearance. -/
structure Summary where
  total : Nat
  files : FileCounts
  controllers : Nat
  byController : Assoc String Nat
  wildcard : Nat
deriving DecidableEq, Repr

namespace Summary

/-- The summary of routes and of the files they come from. -/
def ofRoutes (files : FileCounts) (routes : List Route) : Summary :=
  let byController := countByController routes
  { total := routes.length
    files
    controllers := byController.length
    byController
    wildcard := routes.countP fun route => route.isWildcard }

/-- The sum of all counts. -/
def sumOfCounts (counts : Assoc String Nat) : Nat := counts.foldr (fun entry sum => entry.2 + sum) 0

theorem sumOfCounts_put (counts : Assoc String Nat) (name : String) :
    sumOfCounts (Assoc.put counts name ((Assoc.get? counts name).getD 0 + 1)) =
      sumOfCounts counts + 1 := by
  induction counts with
  | nil => rfl
  | cons entry rest ih =>
    obtain ⟨present, count⟩ := entry
    simp only [sumOfCounts] at ih
    by_cases same : present = name
    · simp [Assoc.put, Assoc.get?, sumOfCounts, same]
      omega
    · simp [Assoc.put, Assoc.get?, sumOfCounts, same, ih]
      omega

theorem ofRoutes_total_eq_sum (files : FileCounts) (routes : List Route) :
    (ofRoutes files routes).total = sumOfCounts (ofRoutes files routes).byController := by
  have general (counts : Assoc String Nat) :
      sumOfCounts (routes.foldl (fun counts route =>
        let name := route.controller.qualifiedName
        Assoc.put counts name ((Assoc.get? counts name).getD 0 + 1)) counts) =
      sumOfCounts counts + routes.length := by
    induction routes generalizing counts with
    | nil => rfl
    | cons route rest ih =>
      rw [List.foldl_cons, ih, sumOfCounts_put, List.length_cons]
      omega
  simpa [ofRoutes, countByController, sumOfCounts] using (general []).symm

end Summary

end RouteTable
