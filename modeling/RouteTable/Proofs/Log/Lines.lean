/-
**A log holds one line for each record.**

The records of a log are written one after the other, each as JSON text with a line feed behind it.
A message may quote any text there is, line feeds, quotes and characters beyond the basic plane
included. Its JSON text is printable all the same, so the only line feeds of a log are those behind
its records, and every line is read back as the record it was written for.

* `Text.pieces_lines`: lines without a line feed of their own are the pieces of their text;
* `Record.toDatum_exact`, `Record.read_line`: a record is read back from its line;
* `text_lines`: the lines of a log are its records in order;
* `OpenLog.record_text`: what a command adds to its log file is the text of records.
-/

import RouteTable.Command.Run
import RouteTable.Proofs.Json.Printable
import RouteTable.Proofs.Text.Cuts
import Mathlib.Data.List.Forall2

namespace RouteTable

/-- Lines without a line feed of their own, each with one behind it, are the pieces of their text;
nothing stands behind the last line feed. -/
theorem Text.pieces_lines {lines : List (List Char)} (clean : ∀ line ∈ lines, '\n' ∉ line) :
    pieces (· = '\n') (lines.flatMap (· ++ ['\n'])) = lines ++ [[]] := by
  induction lines with
  | nil => rfl
  | cons line later ih =>
    obtain ⟨here, others⟩ := List.forall_mem_cons.mp clean
    have whole : pieces (· = '\n') line = [line] := by
      refine pieces_of_clean fun char inside => ?_
      have different : char ≠ '\n' := fun same => here (same ▸ inside)
      simpa using different
    rw [List.flatMap_cons, List.append_assoc, List.singleton_append,
      pieces_append_cons line (by simp), whole, ih others]
    rfl

namespace Log

/-- The text of records: the line of each with a line feed behind it. -/
def text (records : List Record) : String :=
  String.join (records.map fun record => record.line ++ "\n")

theorem text_toList (records : List Record) : (text records).toList =
    (records.map fun record => record.line.toList).flatMap (· ++ ['\n']) := by
  simp [text, String.toList_join, List.flatMap_map]

namespace Record

variable (record : Record)

/-- The datum holds the record: its time, the name of its level, its channel and its message. -/
structure HeldBy (datum : Datum) : Prop where
  timestamp : datum.get? "timestamp" = some (.text record.timestamp)
  level : datum.get? "level" = some (.text (levelName record.level))
  channel : datum.get? "logger" = some (.text record.channel)
  message : datum.get? "message" = some (.text record.message)

/-- The line is JSON text of an object that holds the record. -/
def WrittenAs (line : String) : Prop :=
  ∃ entries, Json.read line = .ok (.map entries) ∧ record.HeldBy (.map entries)

/-- The entries of a record have different names, and their values are texts. -/
theorem toDatum_exact : record.toDatum.IsExact := by
  unfold toDatum
  refine Datum.object_exact ?_ ?_
  · cases record.failure with
    | none =>
      show ["timestamp", "level", "logger", "message"].Nodup
      decide
    | some failure =>
      show ["timestamp", "level", "logger", "message", "exception"].Nodup
      decide
  · cases record.failure with
    | none => exact ⟨trivial, trivial, trivial, trivial, trivial⟩
    | some failure => exact ⟨trivial, trivial, trivial, trivial, trivial, trivial⟩

/-- A record has no number that could be too long. -/
theorem toDatum_excess : record.toDatum.excess? = none := by
  unfold toDatum
  cases record.failure with
  | none => rfl
  | some failure => rfl

/-- A record is read back from its line. -/
theorem read_line : Json.read record.line = .ok record.toDatum := by
  rw [line, Json.read_line record.toDatum_exact, record.toDatum_excess]
  rfl

theorem writtenAs_line : record.WrittenAs record.line :=
  ⟨_, record.read_line, rfl, rfl, rfl, rfl⟩

/-- The line of a record goes on to its end. -/
theorem newline_not_mem_line : '\n' ∉ record.line.toList := by
  intro inside
  have printable := Json.line_printable record.toDatum_exact '\n' inside
  exact absurd printable (by decide)

end Record

/-- **The lines of a log are its records in order.** Whatever the levels, channels and messages of
records are, their text has one line feed for each of them and none elsewhere. It is cut there into
as many lines as there are records, with nothing behind the last, and each line is JSON text of an
object that holds the record of its place. -/
theorem text_lines (records : List Record) :
    ∃ lines : List String,
      (Text.pieces (· = '\n') (text records).toList).map String.ofList = lines ++ [""] ∧
        lines.length = records.length ∧ List.Forall₂ Record.WrittenAs records lines := by
  have clean : ∀ line ∈ records.map fun record => record.line.toList, '\n' ∉ line := by
    intro line listed
    obtain ⟨record, -, rfl⟩ := List.mem_map.mp listed
    exact record.newline_not_mem_line
  refine ⟨records.map Record.line, ?_, List.length_map _, ?_⟩
  · rw [text_toList, Text.pieces_lines clean]
    simp
  · rw [List.forall₂_map_right_iff]
    exact List.forall₂_same.mpr fun record _ => record.writtenAs_line

end Log

/-- What a command adds to its log file is the text of the records of the notices it hears. -/
theorem Command.OpenLog.record_text (opened : OpenLog) (time : String) (notices : List Notice)
    (tree : FileTree) {place : List String} (placed : opened.place = some place) :
    opened.record time notices tree =
      append tree place
        (Log.text ((opened.heard notices).map (Log.Record.ofNotice time))) := by
  rw [record, placed, Log.text, List.map_map]
  rfl

end RouteTable
