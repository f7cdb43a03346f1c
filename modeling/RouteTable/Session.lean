/-
**A session on a project.**

A session has the files, the settings and the target of a project and a parser for routing files,
and keeps the routes that were found, the counts of the files and the notices. A file that cannot be
read or is too large is noted and passed over, so that the other files still count. A run reports
each of its files before it prepares it.

* `prepareText_prepared`: text that is in memory is always prepared and counted;
* `start_counts`: a run starts without routes and with all counts at zero.
-/

import RouteTable.Discovery
import RouteTable.Recognizer
import RouteTable.Source.Reader
import RouteTable.Summary

namespace RouteTable

/-- What a run calls back with for a file: its number, how many files there are, and its path. -/
abbrev Progress : Type := Nat × Nat × Path

/-- A session on a project. The calls back that its last run has made are kept as a history, the
last call at the end. -/
structure Session where
  tree : FileTree
  settings : Settings
  target : Path
  recognizer : Recognizer := {}
  counts : FileCounts := {}
  parser : Source.Parser := Source.parser
  progress : Array Progress := #[]

/-- The unit of size limits, `2 ^ 20` bytes. -/
def bytesPerUnit : Nat := 1048576

/-- Whether a size in bytes is above a limit in units, if the limit is a number. The size in units
is taken as it is; in double precision it is the same for every size of up to `2 ^ 53` bytes, and a
larger size would be rounded to 53 bits. -/
def exceeds? (size : Nat) : Datum → Option Bool
  | .boolean limit => some ((if limit then bytesPerUnit else 0) < size)
  | .integer limit => some (limit * bytesPerUnit < size)
  | .scalar (.real limit) => some (limit.isBelowFraction size bytesPerUnit)
  | _ => none

namespace Session

/-- A step changes the session and has an answer or fails. -/
abbrev Act (α : Type) : Type := Session → Except SessionFault α × Session

/-- The routes that were found. -/
def routes (session : Session) : List Route := session.recognizer.registry.toList

/-- The summary of the session. -/
def summary (session : Session) : Summary := .ofRoutes session.counts session.routes

/-- Reports a notice. -/
def note (notice : Notice) (session : Session) : Session :=
  { session with recognizer := session.recognizer.note notice }

/-- Reports a file of a run by a call back. -/
def report (progress : Progress) (session : Session) : Session :=
  { session with progress := session.progress.push progress }

/-- Counts a file that is left out. -/
def skip (session : Session) : Session :=
  { session with counts := { session.counts with skipped := session.counts.skipped + 1 } }

/-- Counts a file that cannot be read. -/
def err (session : Session) : Session :=
  { session with counts := { session.counts with errored := session.counts.errored + 1 } }

/-- Prepares text that is in memory under the name of a file and gives its routes. -/
def prepareText (name text : String) (session : Session) : List Route × Session :=
  let (calls, notices) := session.parser.read name text
  let noted := notices.foldl (fun recognizer notice => recognizer.note notice) session.recognizer
  let (found, recognizer) := noted.process (some name) (calls.map Value.call)
  (found,
    { session with
      recognizer
      counts := { session.counts with prepared := session.counts.prepared + 1 } })

/-- Prepares a file, unless it is too large or cannot be read, and gives its routes. A path with a
null character is no path of a file that cannot be read: it fails. -/
def prepareFile (path : Path) : Act (List Route) := fun session =>
  let unreadable (fault : ReadFault) : Except SessionFault (List Route) × Session :=
    (.ok [], err (session.note (.fileUnreadable path.text fault)))
  match session.tree.size path with
  | .error .nullCharacter => (.error (.unread (.unopened path.text .nullCharacter)), session)
  | .error fault => unreadable (.unopened path.text fault)
  | .ok size =>
    match exceeds? size session.settings.sizeLimit with
    | none => (.error .unusableLimit, session)
    | some true =>
      let limit := session.settings.sizeLimit.message
      (.ok [], skip (session.note (.fileTooLarge path.text size limit)))
    | some false =>
      match session.tree.readText path with
      | .error fault => unreadable fault
      | .ok text =>
        let (found, after) := session.prepareText path.text text
        (.ok found, after)

/-- Prepares files in order, out of `total` files and from one with a number on. Each is reported
right before it is prepared. -/
def prepareFiles (total : Nat) : Nat → List Path → Act Unit
  | _, [], session => (.ok (), session)
  | number, path :: rest, session =>
    match (session.report (number, total, path)).prepareFile path with
    | (.ok _, after) => prepareFiles total (number + 1) rest after
    | (.error fault, after) => (.error fault, after)

/-- The calls of a file. -/
def parseFile (path : Path) : Act (List Call) := fun session =>
  match session.tree.readText path with
  | .error fault => (.error (.unread fault), session)
  | .ok text =>
    let (calls, notices) := session.parser.read path.text text
    (.ok calls, notices.foldl (fun session notice => session.note notice) session)

/-- The routing files; those that are left out are counted. -/
def collect : Act (List Path) := fun session =>
  let (discovery, fault) := Discovery.ofTarget session.tree session.settings session.target
  let counted :=
    { session with
      counts :=
        { session.counts with skipped := session.counts.skipped + discovery.skipped } }
  match fault with
  | some fault => (.error fault, counted)
  | none => (.ok discovery.found, counted)

/-- Whether a path would be left out. -/
def ignores (path : Path) : Act Bool := fun session =>
  match session.settings.ignored.ignores? session.target path with
  | some verdict => (.ok verdict, session)
  | none => (.error .unusableIgnored, session)

/-- The session at the start of a run: no routes, and nothing is counted or reported. -/
def start (session : Session) : Session :=
  { session with
    recognizer := { session.recognizer with registry := #[] }
    counts := {}
    progress := #[] }

/-- What a run gives: the files in order, all routes, and what was reported on the way. -/
structure Run where
  files : List Path
  routes : List Route
  progress : List Progress
deriving DecidableEq, Repr

/-- Prepares every routing file of the project. -/
def run : Act Run := fun session =>
  match collect session.start with
  | (.error fault, after) => (.error fault, after)
  | (.ok files, collected) =>
    let noted :=
      if files.isEmpty then collected.note (.nothingFound session.target.text) else collected
    match prepareFiles files.length 1 files noted with
    | (.error fault, after) => (.error fault, after)
    | (.ok _, after) =>
      let finished := after.note
        (.runFinished after.recognizer.registry.size after.counts.prepared)
      (.ok ⟨files, finished.routes, finished.progress.toList⟩, finished)

theorem prepareText_prepared (name text : String) (session : Session) :
    (session.prepareText name text).2.counts.prepared = session.counts.prepared + 1 := rfl

theorem start_counts (session : Session) :
    session.start.counts = {} ∧ session.start.routes = [] := ⟨rfl, rfl⟩

/-! ## Steps -/

/-- What can be done in a session. -/
inductive Step
  | run
  | prepareText (name text : String)
  | prepareFile (path : Path)
  | parseFile (path : Path)
  | collect
  | ignores (path : Path)
  | write (path : Path) (entry : Entry)
  | remove (path : Path)
  | allRoutes
deriving DecidableEq

/-- What a step answers. -/
inductive Answer
  | ran (run : Run)
  | routes (routes : List Route)
  | calls (calls : List Call)
  | paths (paths : List Path)
  | verdict (verdict : Bool)
  | done

/-- The answer of an act in its own form. -/
def answering {α : Type} (form : α → Answer) (act : Act α) : Act Answer := fun session =>
  let (answer, after) := act session
  (answer.map form, after)

/-- Carries out a step. -/
def apply (step : Step) : Act Answer :=
  match step with
  | .run => answering .ran run
  | .prepareText name text => fun session =>
    let (found, after) := session.prepareText name text
    (.ok (.routes found), after)
  | .prepareFile path => answering .routes (prepareFile path)
  | .parseFile path => answering .calls (parseFile path)
  | .collect => answering .paths collect
  | .ignores path => answering .verdict (ignores path)
  | .write path entry => fun session =>
    (.ok .done, { session with tree := session.tree.write (session.tree.placeOf path) entry })
  | .remove path => fun session =>
    (.ok .done, { session with tree := session.tree.remove (session.tree.placeOf path) })
  | .allRoutes => fun session => (.ok (.routes session.routes), session)

end Session

end RouteTable
