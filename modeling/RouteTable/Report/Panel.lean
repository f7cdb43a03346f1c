/-
**The summary as text.**

The counts come first, then the controllers with the most routes; controllers with as many routes
as each other keep their order. The headings are marked for colours.

* `topControllers_length`: a panel names at most eight controllers.
-/

import RouteTable.Summary

namespace RouteTable.Panel

/-- How many controllers a panel names. -/
def controllerLimit : Nat := 8

/-- The controllers with the most routes, the most first. -/
def topControllers (counts : Assoc String Nat) : List (String × Nat) :=
  (counts.mergeSort fun first second => second.2 ≤ first.2).take controllerLimit

theorem topControllers_length (counts : Assoc String Nat) :
    (topControllers counts).length ≤ controllerLimit := by
  simp only [topControllers, List.length_take]
  exact Nat.min_le_left _ _

/-- The text of a summary. -/
def text (summary : Summary) : String :=
  let files := summary.files
  let head :=
    [ "", "[bold cyan] Route Summary[/bold cyan]", "",
      s!"[bold]Total Routes:[/bold] {summary.total}",
      s!"[bold]Controllers:[/bold] {summary.controllers}",
      s!"[bold]Wildcard Actions:[/bold] {summary.wildcard}",
      s!"[bold]Files Prepared:[/bold] {files.prepared} | Skipped: {files.skipped} | Errored: " ++
        toString files.errored,
      "", "[bold cyan]Top Controllers:[/bold cyan]", "" ]
  let controllers := (topControllers summary.byController).map fun entry =>
    s!"   {entry.1}: {entry.2}"
  "\n".intercalate head ++ "\n".intercalate controllers

end RouteTable.Panel
