/-
**What a command prints.**

Reports are printed as they are. Everything else is for people: marks are taken away and long lines
are broken.

* `text_document`: a report is printed as one JSON document and a line feed.
-/

import RouteTable.Json.Printer
import RouteTable.Report.Markup
import RouteTable.Report.Table
import RouteTable.Report.Wrapping

namespace RouteTable

namespace Table

/-- A cell of at least a width. -/
def cell (width : Nat) (content : String) : List Char :=
  content.toList ++ List.replicate (width - content.length) ' '

/-- The widths of the columns of rows. -/
def widths (rows : List (List String)) : List Nat :=
  rows.foldl (fun widths row =>
    (List.range (max widths.length row.length)).map fun column =>
      max (widths[column]?.getD 0) ((row[column]?.map String.length).getD 0)) []

/-- A table with its cells in columns. -/
def text (table : Table) : String :=
  let rows := (table.headers :: table.rows).map fun row => row.map Markup.plain
  let widths := widths rows
  let lines := rows.map fun row => String.ofList <|
    Text.join [' ', ' '] ((widths.zip row).map fun column => cell column.1 column.2)
  "\n".intercalate (table.title :: lines)

end Table

namespace Command

/-- One thing that is printed. -/
inductive Output
  | document (datum : Datum)
  | message (marked : String)
  | table (shown : Table)

namespace Output

/-- The number of characters on a line for people. -/
def width : Nat := 80

/-- What is printed, with the line feed at its end. -/
def text : Output → String
  | .document datum => Json.indented datum ++ "\n"
  | .message marked => Wrapping.wrapped width (Markup.plain marked) ++ "\n"
  | .table shown => shown.text ++ "\n"

theorem text_document (datum : Datum) : (document datum).text = Json.indented datum ++ "\n" := rfl

end Output

end Command

end RouteTable
