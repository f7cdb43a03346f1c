/-
**Running a command.**

A command reads its settings from a file or from the environment, opens its log, clones the
repository if its target is one, prepares the routing files, prints the routes and perhaps saves the
report. What it does to the files is part of its outcome.

* `run_of_stop`: a command that is not understood leaves the files alone;
* `isRepository_local`: a target that begins with none of the marks of a repository is a path.
-/

import RouteTable.Command.Arguments
import RouteTable.Command.Output
import RouteTable.Log.Setup
import RouteTable.Report
import RouteTable.Report.Panel
import RouteTable.Session

namespace RouteTable.Command

/-- What a command finds: the files, the variables, the time as reports and as log records show it,
the directory for clones, and the files of the repositories that can be cloned. -/
structure Surroundings where
  tree : FileTree
  environment : Assoc String String
  reportTime : String
  recordTime : String
  cloneDirectory : String
  repository : String → Option (List (Path × Entry))

/-- What a command leaves behind: its exit code, what it printed for the user and about problems,
the files, and the repositories that it tried to clone. -/
structure Outcome where
  exit : Nat
  outputs : List Output
  complaints : List String
  tree : FileTree
  clones : List String

/-- Why a command does not start. -/
inductive Fault
  | settings (fault : SettingsFault)
  | log (fault : Log.SetupFault)
  | logFile (fault : OpenFault)
deriving DecidableEq, Repr

/-- What a fault says. -/
def Fault.message : Fault → String
  | .settings (.unreadable fault) => fault.message
  | .settings fault => fault.message?.getD "the settings cannot be used"
  | .log fault => fault.message?.getD "the log cannot be set up"
  | .logFile fault => s!"the log file cannot be opened: {fault.wording}"

/-! ## Settings and log -/

/-- The settings that a command starts from. -/
def startingSettings (around : Surroundings) (arguments : Arguments) :
    Except SettingsFault Settings :=
  match arguments.config.filter (· ≠ "") with
  | some name => Settings.ofFile around.tree name
  | none => Settings.ofEnvironment around.environment

/-- Settings with what a command line asks for instead. -/
def override (arguments : Arguments) (settings : Settings) : Settings :=
  { settings with
    format := arguments.format.getD settings.format
    sizeLimit := (arguments.sizeLimit.map Datum.integer).getD settings.sizeLimit
    logFile := ((arguments.logFile.filter (· ≠ "")).map Datum.text).getD settings.logFile
    verbose := if settings.verbose.isTruthy then settings.verbose else .boolean arguments.verbose }

/-- The file of a log, if it has one. -/
def logFileOf (log : Log.Setup) : Option String :=
  log.handlers.findSome? fun handler =>
    match handler.target with
    | .file path => some path
    | .console => none

/-- The place that a log file is written to: pairs of dots are taken away before it is looked up. -/
def logPlace (tree : FileTree) (file : String) : Except OpenFault (List String) := do
  let names := tree.placeOf (Path.ofText file)
  if names.any FileTree.hasNull then throw .nullCharacter
  match names.getLast? with
  | none => throw .isDirectory
  | some last => tree.writableIn (← tree.locate [] names.dropLast) last

/-- Adds text at the end of a file, which is made if it is missing. -/
def append (tree : FileTree) (place : List String) (text : String) : FileTree :=
  let content := match tree.entryAt place with
    | some (.file content) => content
    | _ => .empty
  tree.put place (.file (content ++ text.toUTF8))

/-- A log that is open, with the place of its file. -/
structure OpenLog where
  log : Log.Setup
  place : Option (List String)
deriving DecidableEq, Repr

/-- Opens the log that settings ask for. -/
def openLog (tree : FileTree) (settings : Settings) : Except Fault (OpenLog × FileTree) := do
  let log ← (Log.setup settings).mapError Fault.log
  match logFileOf log with
  | none => return (⟨log, none⟩, tree)
  | some file =>
    let place ← (logPlace tree file).mapError Fault.logFile
    return (⟨log, some place⟩, append tree place "")

namespace OpenLog

/-- The notices that are important enough for a log. -/
def heard (opened : OpenLog) (notices : List Notice) : List Notice :=
  notices.filter fun notice => opened.log.threshold ≤ notice.severity.rank

/-- Writes notices to the file of a log. -/
def record (opened : OpenLog) (time : String) (notices : List Notice) (tree : FileTree) :
    FileTree :=
  match opened.place with
  | none => tree
  | some place =>
    append tree place <| String.join <|
      (opened.heard notices).map fun notice => (Log.Record.ofNotice time notice).line ++ "\n"

/-- The notices that a log shows on the console. -/
def complaints (opened : OpenLog) (notices : List Notice) : List String :=
  let least := (opened.log.handlers.head?.map Log.Handler.level).getD 0
  ((opened.heard notices).filter fun notice => least ≤ notice.severity.rank).map fun notice =>
    s!"{notice.severity.name} {notice.message}"

end OpenLog

/-! ## The run -/

/-- The beginnings of the targets that are cloned. -/
def repositoryMarks : List String := ["http://", "https://", "git@"]

/-- Whether a target is a repository that has to be cloned. -/
def isRepository (target : String) : Bool :=
  repositoryMarks.any fun mark => mark.toList.isPrefixOf target.toList

theorem isRepository_local {target : String}
    (unmarked : ∀ mark ∈ repositoryMarks, ¬ mark.toList <+: target.toList) :
    isRepository target = false := by
  rw [isRepository, List.any_eq_false]
  intro mark member found
  exact unmarked mark member (List.isPrefixOf_iff_prefix.1 found)

/-- A message about something that went wrong. -/
def problem (text : String) : Output := .message s!"\n[red]Error: {text}[/red]"

/-- The message of a fault of a session. -/
def faultMessage : SessionFault → String
  | .pattern fault => fault.message
  | .unread fault => fault.message
  | .unusableGlobs => "the patterns are no list"
  | .unusableIgnored => "the ignored names are no list"
  | .unusableLimit => "the size limit is no number"

/-- What a command shows first. -/
def banner : Output :=
  .message <|
    s!"[bold cyan] Rails Route Prepare v{version}[/bold cyan]\n" ++
      "[dim]Rails 2 map.* | Rails 3+ resources | namespace | scope | with_options[/dim]"

/-- How the routes are shown. -/
def shown (settings : Settings) (quiet : Bool) (report : Datum) (summary : Summary)
    (routes : List Route) : List Output :=
  match settings.format with
  | .json => [.document report]
  | .table =>
    if quiet then []
    else
      [ .message s!"\n[green] Found {routes.length} routes[/green]",
        .message (Panel.text summary) ] ++
      if routes.isEmpty then [] else [.table (Table.ofRoutes Table.defaultLimit routes)]

/-- Saves a report under a name, if one is given. -/
def save (tree : FileTree) (name : Option String) (report : Datum) :
    Except OpenFault (Option String × FileTree) :=
  match name.filter (· ≠ "") with
  | none => .ok (none, tree)
  | some name => do
    let place ← tree.writable name
    return (some name, tree.put place (.file (Json.indented report).toUTF8))

/-- The last things that a command says. -/
def farewell (saved : Option String) : List Output :=
  let saving := saved.toList.map fun name => Output.message s!"\n[green] Saved: {name}[/green]"
  saving ++ [.message "\n[bold green] Complete![/bold green]"]

/-- Prepares the routing files under a path, prints and saves; the files it reads are those of
`outcome`. -/
def prepare (around : Surroundings) (arguments : Arguments) (settings : Settings)
    (opened : OpenLog) (quiet : Bool) (path : String) (outcome : Outcome) : Outcome :=
  let session : Session := { tree := outcome.tree, settings, target := Path.ofText path }
  let (answer, after) := session.run
  let notices := after.recognizer.notices.toList
  let logged :=
    { outcome with
      complaints := outcome.complaints ++ opened.complaints notices
      tree := opened.record around.recordTime notices outcome.tree }
  match answer with
  | .error fault =>
    { logged with exit := 1, outputs := logged.outputs ++ [problem (faultMessage fault)] }
  | .ok run =>
    let report : Report := ⟨arguments.target, after.summary.toDatum, run.routes⟩
    let datum := report.toDatum around.reportTime
    let outputs := logged.outputs ++ shown settings quiet datum after.summary run.routes
    match save logged.tree arguments.output datum with
    | .error fault =>
      let name := arguments.output.getD ""
      { logged with exit := 1, outputs := outputs ++ [problem (fault.message name)] }
    | .ok (saved, tree) =>
      let ending := if quiet then [] else farewell saved
      { logged with exit := 0, outputs := outputs ++ ending, tree }

/-- Puts the files of a repository into a directory. -/
def checkOut (tree : FileTree) (place : List String) (files : List (Path × Entry)) : FileTree :=
  files.foldl (fun (tree : FileTree) file => tree.write (place ++ file.1.names) file.2) tree

/-- Runs a command on a repository, which is cloned for the run only. The directory of a clone that
failed stays. -/
def prepareClone (around : Surroundings) (arguments : Arguments) (settings : Settings)
    (opened : OpenLog) (quiet : Bool) (outcome : Outcome) : Outcome :=
  let url := arguments.target
  let place := outcome.tree.placeOf (Path.ofText around.cloneDirectory)
  let started :=
    { outcome with
      clones := outcome.clones ++ [url]
      outputs := outcome.outputs ++ [Output.message s!"[cyan]Cloning: {url}[/cyan]"]
      tree := outcome.tree.write place .directory }
  match around.repository url with
  | none =>
    { started with
      exit := 1, outputs := started.outputs ++ [problem "the repository cannot be cloned"] }
  | some files =>
    let cloned :=
      { started with
        outputs := started.outputs ++ [Output.message "[green] Cloned[/green]"]
        tree := checkOut started.tree place files }
    let done := prepare around arguments settings opened quiet around.cloneDirectory cloned
    { done with tree := done.tree.remove place }

/-- Runs a command whose arguments are read. -/
def runArguments (around : Surroundings) (arguments : Arguments) : Except Fault Outcome := do
  let start ← (startingSettings around arguments).mapError Fault.settings
  let settings := override arguments start
  let (opened, tree) ← openLog around.tree settings
  let quiet := arguments.quiet || settings.format = .json
  let outcome : Outcome := ⟨0, if quiet then [] else [banner], [], tree, []⟩
  if isRepository arguments.target then
    return prepareClone around arguments settings opened quiet outcome
  else if (tree.findText arguments.target).isOk then
    return prepare around arguments settings opened quiet arguments.target outcome
  else
    let missing := Output.message s!"[red]Error: {arguments.target} not found[/red]"
    return { outcome with exit := 1, outputs := outcome.outputs ++ [missing] }

/-- How a command is written. -/
def usage : String :=
  "usage: [-h] [-o OUTPUT] [--format table|json] [--config FILE] [--max-file-size MB] " ++
    "[--log-file FILE] [-v] [--version] [-q] target"

/-- Runs a command line. -/
def run (around : Surroundings) (words : List String) : Except Fault Outcome :=
  match Arguments.read words with
  | .error .help => .ok ⟨0, [.message usage], [], around.tree, []⟩
  | .error .version => .ok ⟨0, [.message s!"Rails Route Prepare {version}"], [], around.tree, []⟩
  | .error .misuse => .ok ⟨2, [], [usage], around.tree, []⟩
  | .ok arguments => runArguments around arguments

theorem run_of_stop {around : Surroundings} {words : List String} {stop : Stop} {outcome : Outcome}
    (stopped : Arguments.read words = .error stop) (done : run around words = .ok outcome) :
    outcome.tree = around.tree := by
  rw [run, stopped] at done
  cases stop <;> (cases done; rfl)

end RouteTable.Command
