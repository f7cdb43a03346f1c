/-
**The files of a run do not see each other.**

A run gives the routes of the files that are found, file by file, as if each were read alone. So a
run can be repeated, what was done in the session before does not matter, and a file that gives no
routes can come and go without any effect on the others.

* `Session.PassedOver`: the file at a place is too large, undecodable or ignored, or there is none;
* `Session.flatMap_routesAt_eq`: a change of such a file;
* `Session.RunsAlone`: all this, for one session;
* `Session.after_runsAlone`: it holds after any steps.
-/

import RouteTable.Proofs.Session.Run

namespace RouteTable.Session

variable {place : List String} {limit : Int} {session : Session}

/-! ## One changed file -/

/-- The file at a place is passed over: there is none, it is too large, it is not UTF-8, or every
path from the target to it is ignored. -/
def PassedOver (limit : Int) (place : List String) (session : Session) : Prop :=
  match session.tree.entryAt place with
  | some (.file content) =>
    limit * bytesPerUnit < content.size ∨ (Text.Utf8.decode content).isOk = false ∨
      ∀ path, session.target.Below path → session.tree.leadsTo place path →
        session.settings.ignored.ignores? session.target path = some true
  | _ => True

/-- A file that is passed over gives no routes. -/
theorem PassedOver.routesAt (passed : PassedOver limit place session) {path : Path}
    (inside : path ∈ session.filesFound) (there : session.tree.leadsTo place path) :
    session.tree.routesAt session.parser limit path = [] := by
  obtain ⟨file, below, kept⟩ := filesFound_spec inside
  obtain ⟨content, found⟩ := (FileTree.isFile_iff ..).mp file
  have entry : session.tree.entryAt place = some (.file content) := by
    rwa [FileTree.find_toOption, of_decide_eq_true there] at found
  rw [PassedOver, entry] at passed
  rw [FileTree.routesAt_eq, found]
  dsimp only
  unfold Fate.ofContent
  rcases passed with large | undecodable | ignored
  · rw [if_pos large]
    rfl
  · split
    · rfl
    · cases decoded : Text.Utf8.decode content with
      | error fault => rfl
      | ok text =>
        rw [decoded] at undecodable
        cases undecodable
  · rw [ignored path below there] at kept
    cases kept

section TwoTrees

variable {other : FileTree}

/-- The same files are found after a change, in the same order, the changed one apart. -/
theorem filesFound_filter (differ : FileTree.DifferAt place session.tree other)
    {files others : List Path} (found : (collect session).1 = .ok files)
    (otherFound : (collect { session with tree := other }).1 = .ok others) :
    (files.filter fun path => !session.tree.leadsTo place path) =
      others.filter fun path => !session.tree.leadsTo place path := by
  obtain ⟨-, noFault, rfl⟩ := filesFound_eq_of_ok found
  obtain ⟨-, otherNoFault, rfl⟩ := filesFound_eq_of_ok otherFound
  exact (Discovery.ofTarget_alike differ session.settings noFault otherNoFault).found

theorem routesAt_eq (differ : FileTree.DifferAt place session.tree other) (limit : Int)
    {path : Path} (elsewhere : session.tree.leadsTo place path = false) :
    session.tree.routesAt session.parser limit path =
      other.routesAt session.parser limit path := by
  rw [FileTree.routesAt_eq, FileTree.routesAt_eq, differ.find_eq elsewhere]

/-- A file that is passed over before and after a change makes no difference. -/
theorem flatMap_routesAt_eq (differ : FileTree.DifferAt place session.tree other)
    (passed : PassedOver limit place session)
    (stillPassed : PassedOver limit place { session with tree := other })
    {files others : List Path} (found : (collect session).1 = .ok files)
    (otherFound : (collect { session with tree := other }).1 = .ok others) :
    files.flatMap (session.tree.routesAt session.parser limit) =
      others.flatMap (other.routesAt session.parser limit) := by
  let elsewhere (path : Path) : Bool := !session.tree.leadsTo place path
  have dropped : ∀ path ∈ files, elsewhere path = false →
      session.tree.routesAt session.parser limit path = [] := by
    intro path inside there
    rw [← (filesFound_eq_of_ok found).1] at inside
    exact passed.routesAt inside ((Bool.not_eq_false' ..).mp there)
  have otherDropped : ∀ path ∈ others, elsewhere path = false →
      other.routesAt session.parser limit path = [] := by
    intro path inside there
    rw [← (filesFound_eq_of_ok otherFound).1] at inside
    exact stillPassed.routesAt inside
      ((differ.leadsTo_eq place path).symm.trans ((Bool.not_eq_false' ..).mp there))
  calc files.flatMap (session.tree.routesAt session.parser limit)
      = (files.filter elsewhere).flatMap (session.tree.routesAt session.parser limit) :=
        (flatMap_filter_eq _ _ _ dropped).symm
    _ = (files.filter elsewhere).flatMap (other.routesAt session.parser limit) := by
        refine congrArg List.flatten (List.map_congr_left fun path inside => ?_)
        refine routesAt_eq differ limit ?_
        exact (Bool.not_eq_true' ..).mp (List.mem_filter.mp inside).2
    _ = (others.filter elsewhere).flatMap (other.routesAt session.parser limit) := by
        rw [filesFound_filter differ found otherFound]
    _ = others.flatMap (other.routesAt session.parser limit) := flatMap_filter_eq _ _ _ otherDropped

end TwoTrees

/-! ## Every file alone -/

/-- **A run reads every file alone.** -/
structure RunsAlone (limit : Int) (session : Session) : Prop where
  /-- The routes are those of the files that are found, in order. -/
  answer : (run session).1 = (collect session).1.map fun files =>
    ⟨files, files.flatMap (session.tree.routesAt session.parser limit),
      progressOf files.length 1 files⟩
  /-- The search succeeds, unless a path cannot be compared with the ignored names. -/
  succeeds : session.settings.ignored ≠ .unusable → ∃ files, (collect session).1 = .ok files
  /-- What is found are files. -/
  files : ∀ files, (collect session).1 = .ok files → ∀ path ∈ files, session.tree.isFile path
  stamped : ∀ path, ∀ route ∈ session.tree.routesAt session.parser limit path,
    route.file = some path.text
  /-- Nothing but the files, the settings, the target and the parser matters. -/
  same : ∀ other, SameProject session other → SameOutcome (run session) (run other)
  again : SameOutcome (run session) (run (run session).2)
  /-- If one file is added, changed or taken away, the same other files are found and have the same
  routes; and if this file is passed over before and after, all routes of the run are the same. -/
  isolated : ∀ place other, FileTree.DifferAt place session.tree other →
    ∀ files others, (collect session).1 = .ok files →
      (collect { session with tree := other }).1 = .ok others →
      (files.filter fun path => !session.tree.leadsTo place path) =
        (others.filter fun path => !session.tree.leadsTo place path) ∧
      (∀ path, session.tree.leadsTo place path = false →
        session.tree.routesAt session.parser limit path =
          other.routesAt session.parser limit path) ∧
      (PassedOver limit place session → PassedOver limit place { session with tree := other } →
        (run session).1.map Run.routes = (run { session with tree := other }).1.map Run.routes)

/-- **Runs have no memory and no file sees another one.** After any steps in a session with a whole
number as size limit and patterns that can be read, a run reads every file alone. -/
theorem after_runsAlone (session : Session) (steps : List Step) (limit : Int)
    (integer : session.settings.sizeLimit = .integer limit)
    (accepted : session.settings.Accepted) : RunsAlone limit (session.after steps) := by
  have kept := (after_settings session steps).1
  rw [← kept] at integer accepted
  generalize session.after steps = now at integer accepted
  refine ⟨run_answer integer, ?_, ?_, now.tree.routesAt_file now.parser limit, ?_, ?_, ?_⟩
  · intro usable
    rw [collect_answer, Discovery.ofTarget_noFault accepted usable]
    exact ⟨_, rfl⟩
  · exact fun files => collect_files
  · exact fun other same => run_sameOutcome integer same
  · exact run_sameOutcome integer (run_sameProject now)
  · intro place other differ files others found otherFound
    refine ⟨filesFound_filter differ found otherFound, fun path => routesAt_eq differ limit, ?_⟩
    intro passed stillPassed
    let changed : Session := { now with tree := other }
    have unchanged : changed.settings.sizeLimit = .integer limit := integer
    rw [run_answer integer, run_answer unchanged, found, otherFound]
    exact congrArg Except.ok
      (flatMap_routesAt_eq differ passed stillPassed found otherFound)

/-- A session with the default settings in which a file is written between two runs. -/
theorem after_runsAlone_defaults :
    let file : Path := ⟨"", ["config", "routes.rb"]⟩
    let session : Session := { tree := {}, settings := Settings.default, target := ⟨"", []⟩ }
    let steps : List Step := [.run, .write file (.file "root 'home#index'".toUTF8),
      .prepareText "extra.rb" "get '/extra'", .run, .prepareFile file]
    Settings.default.sizeLimit = .integer 10 ∧ Settings.default.Accepted ∧
      RunsAlone 10 (session.after steps) :=
  ⟨rfl, Settings.default_accepted, after_runsAlone _ _ 10 rfl Settings.default_accepted⟩

end RouteTable.Session
