/-
**The report of a run.**

A report names the target as it was given, the version of the program, the summary and every route
in order. It is written as JSON.

* `toDatum_routes`: a report lists every route once, in order.
-/

import RouteTable.Datum
import RouteTable.Summary

namespace RouteTable

/-- The version of the program. -/
def version : String := "1.0.0"

/-- The entries of a route in a report. -/
def Route.fields (route : Route) : List (String × Datum) :=
  [ ("route", .text route.text), ("controller", .text route.controller.qualifiedName),
    ("namespaces", .texts route.controller.namespaces), ("action", .text route.action),
    ("file_path", .optionalText route.file), ("line_number", .integer route.line) ]

/-- The summary in a report. -/
def Summary.toDatum (summary : Summary) : Datum :=
  .object
    [ ("total", .natural summary.total), ("files_prepared", .natural summary.files.prepared),
      ("files_skipped", .natural summary.files.skipped),
      ("files_errored", .natural summary.files.errored),
      ("controllers", .natural summary.controllers),
      ("by_controller", .object (summary.byController.map fun entry =>
        (entry.1, .natural entry.2))),
      ("wildcard", .natural summary.wildcard) ]

/-- The report of a run. -/
structure Report where
  target : String
  summary : Datum
  routes : List Route

namespace Report

/-- What a report says apart from its time. -/
def fields (report : Report) : List (String × Datum) :=
  [ ("target", .text report.target), ("version", .text version), ("summary", report.summary),
    ("routes", .list (report.routes.map fun route => .object route.fields)) ]

/-- A report with the time it was made at. -/
def toDatum (timestamp : String) (report : Report) : Datum :=
  .object (("timestamp", .text timestamp) :: report.fields)

theorem toDatum_routes (timestamp : String) (report : Report) :
    (report.toDatum timestamp).get? "routes" =
      some (.list (report.routes.map fun route => .object route.fields)) := by
  simp [toDatum, fields, Datum.object, Datum.get?, Assoc.get?]

end Report

end RouteTable
