/-
**Log records.**

A record is one line of JSON with its time, the name of its level, its channel and its message, and
with the failure that it reports.

* `levelName_known`: the common levels have their names.
-/

import RouteTable.Json.Printer
import RouteTable.Notice

namespace RouteTable.Log

/-- A failure that a record reports. -/
structure Failure where
  kind : String
  text : String
deriving DecidableEq, Repr

/-- A record of a log. -/
structure Record where
  timestamp : String
  level : Int
  channel : String
  message : String
  failure : Option Failure := none
deriving DecidableEq, Repr

/-- The names of the common levels. -/
def levelNames : List (Int × String) :=
  [ (50, "CRITICAL"), (40, "ERROR"), (30, "WARNING"), (20, "INFO"), (10, "DEBUG"), (0, "NOTSET") ]

/-- The name of a level. -/
def levelName (level : Int) : String :=
  match levelNames.find? (·.1 = level) with
  | some (_, name) => name
  | none => s!"Level {level}"

theorem levelName_known (severity : Severity) : levelName severity.rank = severity.name := by
  cases severity <;> rfl

/-- A failure in words; the text of a missing key is quoted. -/
def Failure.message (failure : Failure) : String :=
  let text := if failure.kind = "KeyError" then Text.quoted failure.text else failure.text
  if text = "" then failure.kind else s!"{failure.kind}: {text}"

namespace Record

/-- A record as a datum. -/
def toDatum (record : Record) : Datum :=
  .object <|
    [ ("timestamp", .text record.timestamp), ("level", .text (levelName record.level)),
      ("logger", .text record.channel), ("message", .text record.message) ] ++
    match record.failure with
    | some failure => [("exception", .text failure.message)]
    | none => []

/-- A record as a line. -/
def line (record : Record) : String := Json.line record.toDatum

/-- The record of a notice. -/
def ofNotice (timestamp : String) (notice : Notice) : Record where
  timestamp
  level := notice.severity.rank
  channel := notice.channel
  message := notice.message

end Record

end RouteTable.Log
