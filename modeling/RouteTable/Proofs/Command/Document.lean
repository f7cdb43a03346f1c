/-
**A command that prints JSON.**

A command whose format is JSON prints the report of its run and nothing else, unless it has to clone
a repository: then two messages stand before the report. The report is one JSON document, and a
report that is saved is the same document.

* `Report.toDatum_exact`: a report is read back from its text;
* `runArguments_eq`: which of its three ways a command goes;
* `prepare_document`: what a run prints and saves;
* `run_document`, `run_cloning`: a command on files that are there and one on a repository.
-/

import RouteTable.Command.Run
import RouteTable.Proofs.Files.Writing
import RouteTable.Proofs.Json.Printable
import RouteTable.Proofs.Session.Run
import RouteTable.Proofs.Session.Summary

namespace RouteTable

/-! ## Reports are exact -/

theorem Route.fields_exact (route : Route) : (Datum.object route.fields).IsExact :=
  Datum.object_exact (show ["route", "controller", "namespaces", "action", "file_path",
      "line_number"].Nodup by decide)
    ⟨trivial, trivial, Datum.texts_exact _, trivial, Datum.optionalText_exact _, trivial, trivial⟩

theorem Summary.ofRoutes_exact (files : FileCounts) (routes : List Route) :
    (Summary.ofRoutes files routes).toDatum.IsExact := by
  have controllers : (Datum.object ((countByController routes).map fun entry =>
      (entry.1, Datum.natural entry.2))).IsExact := by
    refine Datum.object_exact ?_ (Datum.entriesExact_of_forall fun entry inside => ?_)
    · rw [List.map_map]
      exact countByController_nodup routes
    · obtain ⟨field, listed, rfl⟩ := List.mem_map.mp inside
      obtain ⟨counted, -, rfl⟩ := List.mem_map.mp listed
      trivial
  exact Datum.object_exact (show ["total", "files_prepared", "files_skipped", "files_errored",
      "controllers", "by_controller", "wildcard"].Nodup by decide)
    ⟨trivial, trivial, trivial, trivial, trivial, controllers, trivial, trivial⟩

/-- **A report is exact** if its summary is. -/
theorem Report.toDatum_exact {report : Report} (summary : report.summary.IsExact)
    (timestamp : String) : (report.toDatum timestamp).IsExact := by
  have routes : (Datum.list (report.routes.map fun route => .object route.fields)).IsExact :=
    Datum.itemsExact_of_forall fun item inside => by
      obtain ⟨route, -, rfl⟩ := List.mem_map.mp inside
      exact route.fields_exact
  exact Datum.object_exact (show ["timestamp", "target", "version", "summary", "routes"].Nodup by
      decide)
    ⟨trivial, trivial, trivial, summary, routes, trivial⟩

namespace Command

/-! ## Which way a command goes -/

/-- What a reader of the standard output receives. -/
def Outcome.stdout (outcome : Outcome) : String :=
  String.join (outcome.outputs.map Output.text)

section Ways

variable {around : Surroundings} {arguments : Arguments} {start : Settings}

/-- What a command does once its log is open: it clones a repository, prepares what is there or says
that nothing is. -/
def proceed (around : Surroundings) (arguments : Arguments) (settings : Settings)
    (opened : OpenLog) (tree : FileTree) : Outcome :=
  let quiet := arguments.quiet || settings.format = .json
  let outcome : Outcome := ⟨0, if quiet then [] else [banner], [], tree, []⟩
  if isRepository arguments.target then
    prepareClone around arguments settings opened quiet outcome
  else if (tree.findText arguments.target).isOk then
    prepare around arguments settings opened quiet arguments.target outcome
  else
    let missing := Output.message s!"[red]Error: {arguments.target} not found[/red]"
    { outcome with exit := 1, outputs := outcome.outputs ++ [missing] }

/-- **A command with settings** opens its log and proceeds. -/
theorem runArguments_eq (started : startingSettings around arguments = .ok start) :
    runArguments around arguments =
      (openLog around.tree (override arguments start)).map fun found =>
        proceed around arguments (override arguments start) found.1 found.2 := by
  rw [runArguments, started]
  dsimp only [Except.mapError, bind, Except.bind]
  cases openLog around.tree (override arguments start) with
  | error fault => rfl
  | ok found =>
    obtain ⟨opened, tree⟩ := found
    show (if isRepository arguments.target then _ else
      if (tree.findText arguments.target).isOk then _ else _) =
        Except.ok (proceed around arguments (override arguments start) opened tree)
    unfold proceed
    split
    · rfl
    · split <;> rfl

end Ways

/-! ## What a run prints and saves -/

/-- The session in which a command prepares a path. -/
def sessionOn (tree : FileTree) (settings : Settings) (path : String) : Session :=
  { tree, settings, target := Path.ofText path }

/-- The report of a run as data. -/
def documentOf (around : Surroundings) (arguments : Arguments) (session : Session)
    (result : Session.Run) : Datum :=
  (⟨arguments.target, session.run.2.summary.toDatum, result.routes⟩ : Report).toDatum
    around.reportTime

theorem documentOf_exact (around : Surroundings) (arguments : Arguments) (session : Session)
    (result : Session.Run) : (documentOf around arguments session result).IsExact :=
  Report.toDatum_exact (Summary.ofRoutes_exact _ _) _

/-- **What is saved is the text of the report.** -/
theorem save_findText {tree later : FileTree} {name : String} {report : Datum}
    {saved : Option String} (written : name ≠ "")
    (done : save tree (some name) report = .ok (saved, later)) :
    later.findText name = .ok (.file (Json.indented report).toUTF8) := by
  have named : (some name).filter (· ≠ "") = some name := by simp [written]
  unfold save at done
  rw [named] at done
  cases writable : tree.writable name with
  | error fault =>
    simp [writable, bind, Except.bind] at done
  | ok place =>
    simp only [writable, bind, Except.bind, pure, Except.pure, Except.ok.injEq,
      Prod.mk.injEq] at done
    rw [← done.2]
    exact FileTree.findText_put writable _

section Prepare

variable {around : Surroundings} {arguments : Arguments} {settings : Settings} {opened : OpenLog}
  {path : String} {outcome : Outcome}

/-- **A run that is completed in JSON prints its report**, and saves it if it is asked to. -/
theorem prepare_document (json : settings.format = .json)
    (exit : (prepare around arguments settings opened true path outcome).exit = 0) :
    ∃ result, (sessionOn outcome.tree settings path).run.1 = .ok result ∧
      let document := documentOf around arguments (sessionOn outcome.tree settings path) result
      let done := prepare around arguments settings opened true path outcome
      done.outputs = outcome.outputs ++ [.document document] ∧
      ∀ name, arguments.output = some name → name ≠ "" →
        done.tree.findText name = .ok (.file (Json.indented document).toUTF8) := by
  unfold prepare at exit ⊢
  unfold documentOf sessionOn
  dsimp only at exit ⊢
  generalize Session.run { tree := outcome.tree, settings, target := Path.ofText path } = found
    at exit ⊢
  obtain ⟨answer, after⟩ := found
  cases answer with
  | error fault => cases exit
  | ok result =>
    dsimp only at exit ⊢
    refine ⟨result, rfl, ?_⟩
    generalize Report.toDatum around.reportTime _ = document at exit ⊢
    let recorded := opened.record around.recordTime after.recognizer.notices.toList outcome.tree
    cases saved : save recorded arguments.output document with
    | error fault =>
      rw [saved] at exit
      cases exit
    | ok found =>
      obtain ⟨name?, tree⟩ := found
      refine ⟨?_, fun name wanted written => ?_⟩
      · simp [shown, json]
      · rw [wanted] at saved
        exact save_findText written saved

/-- A command exits with zero if its run succeeds and its report can be saved. -/
theorem prepare_exit {quiet : Bool} (noFile : opened.place = none)
    (saves : ∀ report, ∃ found, save outcome.tree arguments.output report = .ok found)
    (ran : ∃ result, (sessionOn outcome.tree settings path).run.1 = .ok result) :
    (prepare around arguments settings opened quiet path outcome).exit = 0 := by
  have kept (notices : List Notice) :
      opened.record around.recordTime notices outcome.tree = outcome.tree := by
    rw [OpenLog.record, noFile]
  unfold sessionOn at ran
  unfold prepare
  dsimp only
  simp only [kept]
  generalize Session.run { tree := outcome.tree, settings, target := Path.ofText path } = found
    at ran ⊢
  obtain ⟨answer, after⟩ := found
  obtain ⟨result, rfl⟩ : ∃ result, answer = Except.ok result := ran
  dsimp only
  obtain ⟨found, saved⟩ := saves
    (Report.toDatum around.reportTime ⟨arguments.target, after.summary.toDatum, result.routes⟩)
  rw [saved]

end Prepare

/-! ## One document -/

/-- **The standard output is the report of a run**, and so is the file that it is saved in. -/
structure PrintsReport (around : Surroundings) (arguments : Arguments) (session : Session)
    (result : Session.Run) (outcome : Outcome) : Prop where
  /-- One document is printed, and a line feed. -/
  stdout : outcome.stdout = Json.indented (documentOf around arguments session result) ++ "\n"
  /-- It is read back, unless a number in it has too many digits. -/
  read : Json.read outcome.stdout =
    Json.checked (documentOf around arguments session result).excess?
      (documentOf around arguments session result)
  /-- The target stands in it as it was given. -/
  target : (documentOf around arguments session result).get? "target" =
    some (.text arguments.target)
  /-- The routes of the run stand in it in order. -/
  routes : (documentOf around arguments session result).get? "routes" =
    some (.list (result.routes.map fun route => .object route.fields))
  /-- The total is the number of the routes. -/
  total : ((documentOf around arguments session result).get? "summary").bind (·.get? "total") =
    some (.natural result.routes.length)
  saved : ∀ name, arguments.output = some name → name ≠ "" → outcome.tree.findText name =
    .ok (.file (Json.indented (documentOf around arguments session result)).toUTF8)

section Document

variable {around : Surroundings} {words : List String} {arguments : Arguments} {start : Settings}
  {outcome : Outcome}

theorem documentOf_total {session : Session} {result : Session.Run}
    (ran : session.run.1 = .ok result) :
    ((documentOf around arguments session result).get? "summary").bind (·.get? "total") =
      some (.natural result.routes.length) := by
  rw [← Session.run_routes ran]
  rfl

/-- A command that starts has settings and an open log. -/
theorem run_ok (read : Arguments.read words = .ok arguments)
    (started : startingSettings around arguments = .ok start)
    (done : run around words = .ok outcome) :
    ∃ opened tree, openLog around.tree (override arguments start) = .ok (opened, tree) ∧
      outcome = proceed around arguments (override arguments start) opened tree := by
  rw [run, read] at done
  dsimp only at done
  rw [runArguments_eq started] at done
  cases logged : openLog around.tree (override arguments start) with
  | error fault =>
    rw [logged] at done
    cases done
  | ok found =>
    rw [logged] at done
    cases done
    exact ⟨found.1, found.2, rfl, rfl⟩

/-- A lone document is printed as it is. -/
theorem Outcome.stdout_document {document : Datum}
    (outputs : outcome.outputs = [.document document]) :
    outcome.stdout = Json.indented document ++ "\n" := by
  rw [stdout, outputs, List.map_singleton, Output.text_document]
  simp

/-- In JSON nothing is printed before the run on files that are there. -/
theorem proceed_local {settings : Settings} {opened : OpenLog} {tree : FileTree}
    (json : settings.format = .json)
    (unmarked : ∀ mark ∈ repositoryMarks, ¬ mark.toList <+: arguments.target.toList)
    (there : (tree.findText arguments.target).isOk) :
    proceed around arguments settings opened tree =
      prepare around arguments settings opened true arguments.target ⟨0, [], [], tree, []⟩ := by
  unfold proceed
  rw [isRepository_local unmarked, if_neg Bool.false_ne_true, if_pos there, json,
    decide_eq_true rfl, Bool.or_true]
  rfl

theorem proceed_missing {settings : Settings} {opened : OpenLog} {tree : FileTree}
    (unmarked : ∀ mark ∈ repositoryMarks, ¬ mark.toList <+: arguments.target.toList)
    (missing : ¬ (tree.findText arguments.target).isOk) :
    (proceed around arguments settings opened tree).exit = 1 := by
  unfold proceed
  rw [isRepository_local unmarked, if_neg Bool.false_ne_true, if_neg missing]

/-- **A command in JSON on files that are there** prints its report and nothing else. -/
theorem run_document (read : Arguments.read words = .ok arguments)
    (started : startingSettings around arguments = .ok start)
    (json : (override arguments start).format = .json)
    (unmarked : ∀ mark ∈ repositoryMarks, ¬ mark.toList <+: arguments.target.toList)
    (done : run around words = .ok outcome) (exit : outcome.exit = 0) :
    ∃ opened tree result, openLog around.tree (override arguments start) = .ok (opened, tree) ∧
      (sessionOn tree (override arguments start) arguments.target).run.1 = .ok result ∧
      PrintsReport around arguments (sessionOn tree (override arguments start) arguments.target)
        result outcome := by
  obtain ⟨opened, tree, logged, rfl⟩ := run_ok read started done
  by_cases there : (tree.findText arguments.target).isOk
  · rw [proceed_local json unmarked there] at exit ⊢
    obtain ⟨result, ran, outputs, saved⟩ := prepare_document json exit
    have exact := documentOf_exact around arguments
      (sessionOn tree (override arguments start) arguments.target) result
    have printed := Outcome.stdout_document outputs
    refine ⟨opened, tree, result, logged, ran, printed, ?_, rfl, ?_, documentOf_total ran, saved⟩
    · rw [printed, Json.read_indented exact]
    · exact Report.toDatum_routes _ _
  · rw [proceed_missing unmarked there] at exit
    cases exit

/-- Without variables the settings are the default. -/
theorem ofEnvironment_nil : Settings.ofEnvironment [] = .ok .default := by
  calc Settings.ofEnvironment []
      = Settings.ofEntries
          [ ("route_globs", .texts Settings.defaultGlobs), ("max_file_size_mb", .integer 10),
            ("output_format", .text "table"), ("verbose", .boolean false),
            ("log_level", .text "INFO"), ("log_file", .null) ] := rfl
    _ = .ok .default := rfl

/-- A command on a directory that saves its report. -/
theorem run_document_saved :
    let listed : FileTree := {}
    let tree := listed.write ["app", "config", "routes.rb"] (.file "root to: 'home#index'".toUTF8)
    let around : Surroundings :=
      ⟨tree, [], "2024-01-01T00:00:00", "2024-01-01T00:00:00", "/tmp/clone", fun _ => none⟩
    let words := ["app", "--format", "json", "-o", "out.json"]
    let arguments : Arguments :=
      { target := "app", format := some .json, output := some "out.json" }
    ∃ outcome, Arguments.read words = .ok arguments ∧
      startingSettings around arguments = .ok .default ∧
      (override arguments .default).format = .json ∧
      (∀ mark ∈ repositoryMarks, ¬ mark.toList <+: arguments.target.toList) ∧
      run around words = .ok outcome ∧ outcome.exit = 0 ∧
      ∃ opened tree result,
        openLog around.tree (override arguments .default) = .ok (opened, tree) ∧
        (sessionOn tree (override arguments .default) arguments.target).run.1 = .ok result ∧
        PrintsReport around arguments
          (sessionOn tree (override arguments .default) arguments.target) result outcome := by
  intro listed tree around words arguments
  have read : Arguments.read words = .ok arguments := rfl
  have started : startingSettings around arguments = .ok .default := ofEnvironment_nil
  have json : (override arguments .default).format = .json := rfl
  have unmarked : ∀ mark ∈ repositoryMarks, ¬ mark.toList <+: arguments.target.toList := by decide
  let opened : OpenLog := ⟨⟨20, [⟨.console, 30⟩]⟩, none⟩
  have logged : openLog tree (override arguments .default) = .ok (opened, tree) := rfl
  have done : run around words =
      .ok (proceed around arguments (override arguments .default) opened tree) := by
    rw [run, read]
    dsimp only
    rw [runArguments_eq started]
    rfl
  have exit : (proceed around arguments (override arguments .default) opened tree).exit = 0 := by
    rw [proceed_local json unmarked (by decide +kernel)]
    exact prepare_exit rfl (fun report => ⟨_, rfl⟩)
      (Session.run_succeeds Settings.default_accepted (by rintro ⟨⟩) rfl)
  exact ⟨_, read, started, json, unmarked, done, exit,
    run_document read started json unmarked done exit⟩

/-! ## Cloning -/

/-- What is said about a repository before its routes are prepared. -/
def cloning (url : String) : List Output :=
  [.message s!"[cyan]Cloning: {url}[/cyan]", .message "[green] Cloned[/green]"]

/-- A repository that can be cloned is prepared after that was said. -/
theorem proceed_clone {settings : Settings} {opened : OpenLog} {tree : FileTree}
    {files : List (Path × Entry)} (json : settings.format = .json)
    (marked : isRepository arguments.target)
    (found : around.repository arguments.target = some files) :
    ∃ cloned, cloned.outputs = cloning arguments.target ∧
      (proceed around arguments settings opened tree).exit =
        (prepare around arguments settings opened true around.cloneDirectory cloned).exit ∧
      (proceed around arguments settings opened tree).outputs =
        (prepare around arguments settings opened true around.cloneDirectory cloned).outputs := by
  unfold proceed prepareClone
  rw [if_pos marked, json, decide_eq_true rfl, Bool.or_true]
  dsimp only
  rw [found]
  exact ⟨_, rfl, rfl, rfl⟩

/-- **A command in JSON on a repository** prints two messages before its report. -/
theorem run_cloning (read : Arguments.read words = .ok arguments)
    (started : startingSettings around arguments = .ok start)
    (json : (override arguments start).format = .json) (marked : isRepository arguments.target)
    (done : run around words = .ok outcome) (exit : outcome.exit = 0) :
    ∃ document, outcome.outputs = cloning arguments.target ++ [.document document] := by
  obtain ⟨opened, tree, -, rfl⟩ := run_ok read started done
  cases found : around.repository arguments.target with
  | none =>
    unfold proceed prepareClone at exit
    rw [if_pos marked] at exit
    dsimp only at exit
    rw [found] at exit
    cases exit
  | some files =>
    obtain ⟨cloned, said, sameExit, sameOutputs⟩ := proceed_clone json marked found
    rw [sameExit] at exit
    obtain ⟨result, -, outputs, -⟩ := prepare_document json exit
    rw [sameOutputs, outputs, said]
    exact ⟨_, rfl⟩

/-- No document begins with the first letter of the message about cloning. -/
theorem read_letter {first : Output} {rest : List Output} {letters : List Char}
    (outputs : outcome.outputs = first :: rest)
    (text : first.text = String.ofList ('C' :: letters)) :
    Json.read outcome.stdout = .error .malformed := by
  have printed : outcome.stdout.toList =
      'C' :: (letters ++ (String.join (rest.map Output.text)).toList) := by
    rw [Outcome.stdout, outputs, List.map_cons, String.join_cons, String.toList_append, text,
      String.toList_ofList, List.cons_append]
  unfold Json.read
  rw [printed]
  rfl

/-- **The output of a command on a repository is no JSON document**, although its format is JSON: it
begins with a message. -/
theorem run_cloning_noDocument :
    let tree : FileTree := {}
    let file : Path × Entry :=
      (⟨"", ["config", "routes.rb"]⟩, .file "root to: \"home#index\"\n".toUTF8)
    let around : Surroundings :=
      ⟨tree, [], "2024-01-01T00:00:00", "2024-01-01T00:00:00", "/tmp/clone", fun _ => some [file]⟩
    ∃ outcome, run around ["https://x.test/a.git", "--format", "json"] = .ok outcome ∧
      outcome.exit = 0 ∧ Json.read outcome.stdout = .error .malformed := by
  intro tree file around
  let words := ["https://x.test/a.git", "--format", "json"]
  let arguments : Arguments := { target := "https://x.test/a.git", format := some .json }
  have read : Arguments.read words = .ok arguments := rfl
  have started : startingSettings around arguments = .ok .default := ofEnvironment_nil
  let settings := override arguments .default
  let opened : OpenLog := ⟨⟨20, [⟨.console, 30⟩]⟩, none⟩
  have logged : openLog tree settings = .ok (opened, tree) := rfl
  have marked : isRepository arguments.target := by decide
  have done : run around words = .ok (proceed around arguments settings opened tree) := by
    rw [run, read]
    dsimp only
    rw [runArguments_eq started]
    rfl
  have exit : (proceed around arguments settings opened tree).exit = 0 := by
    obtain ⟨cloned, -, same, -⟩ := @proceed_clone around arguments settings opened tree [file] rfl
      marked rfl
    rw [same]
    exact prepare_exit rfl (fun report => ⟨_, rfl⟩)
      (Session.run_succeeds Settings.default_accepted (by rintro ⟨⟩) rfl)
  obtain ⟨document, outputs⟩ := run_cloning read started rfl marked done exit
  have text : (Output.message s!"[cyan]Cloning: {arguments.target}[/cyan]").text =
      String.ofList ('C' :: "loning: https://x.test/a.git\n".toList) := by
    decide +kernel
  exact ⟨_, done, exit, read_letter outputs text⟩

end Document

end Command

end RouteTable
