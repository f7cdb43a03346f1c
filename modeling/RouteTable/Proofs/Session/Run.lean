/-
**What a run gives.**

A run starts without routes and counts, searches for the files and prepares them in order. Its
answer, its routes and its counts are those of the files that are found, one by one, whatever was
done in the session before, and so are its reports.

* `Session.after`, `Session.after_settings`: steps keep the settings and the target;
* `Session.run_cases`: how a run can end;
* `Session.filesFound_spec`, `Session.collect_files`: what is found are files;
* `Session.run_eq`: the answer, the routes and the counts of a run;
* `Session.run_succeeds`, `Session.run_routes`: when a run succeeds, and the routes after it;
* `Session.run_sameOutcome`: a run depends on the project alone.
-/

import RouteTable.Proofs.Files.Discovery
import RouteTable.Proofs.Session.Outcome

namespace RouteTable.Session

/-! ## Steps -/

/-- The session after steps. -/
def after (steps : List Step) (session : Session) : Session :=
  steps.foldl (fun session step => (apply step session).2) session

section Steps

variable (session : Session)

/-- The search counts the files that are left out, whether it succeeds or fails. -/
theorem collect_state : (collect session).2 =
    { session with
      counts :=
        { session.counts with
          skipped := session.counts.skipped +
            (Discovery.ofTarget session.tree session.settings session.target).1.skipped } } := by
  unfold collect
  dsimp only
  split
  · rfl
  · rfl

theorem collect_sameProject : SameProject session (collect session).2 := by
  rw [collect_state]
  exact ⟨rfl, rfl, rfl, rfl⟩

/-- The search at the start of a run. -/
theorem collect_start_sameProject : SameProject session (collect session.start).2 :=
  have same := collect_sameProject session.start
  ⟨same.tree, same.settings, same.target, same.parser⟩

/-- Reading the calls of a file adds nothing. -/
theorem parseFile_adds (path : Path) : Adds [] 0 [] session (parseFile path session).2 := by
  have noted (notices : List Notice) (session : Session) :
      Adds [] 0 [] session (notices.foldl (fun session notice => session.note notice) session) := by
    induction notices generalizing session with
    | nil => exact .refl session
    | cons notice rest ih => exact (note_adds notice session).trans (ih _)
  unfold parseFile
  split
  · exact .refl session
  · exact noted _ session

theorem prepareFile_sameProject (path : Path) :
    SameProject session (prepareFile path session).2 := by
  cases known : session.fate? path with
  | none =>
    obtain ⟨fault, stopped⟩ := prepareFile_fault known
    rw [stopped]
    exact .refl session
  | some fate => exact (prepareFile_fate known).2.toSameProject

theorem prepareFiles_sameProject (total number : Nat) (files : List Path) :
    SameProject session (prepareFiles total number files session).2 := by
  induction files generalizing number session with
  | nil => exact .refl session
  | cons path rest ih =>
    cases known : session.fate? path with
    | none =>
      obtain ⟨fault, stopped⟩ := prepareFiles_cons_none known total number rest
      rw [stopped]
      exact (report_adds _ session).toSameProject
    | some fate =>
      obtain ⟨after, step, same⟩ := prepareFiles_cons_some known total number rest
      rw [same]
      exact step.toSameProject.trans (ih after (number + 1))

/-- A run fails where the search fails or where a file fails, or it prepares all files. -/
theorem run_cases :
    (∃ fault, (collect session.start).1 = .error fault ∧
      run session = (.error fault, (collect session.start).2)) ∨
    ∃ files noted, (collect session.start).1 = .ok files ∧
      Adds [] 0 [] (collect session.start).2 noted ∧
      ((∃ fault, (prepareFiles files.length 1 files noted).1 = .error fault ∧
        run session = (.error fault, (prepareFiles files.length 1 files noted).2)) ∨
      ∃ finished, (prepareFiles files.length 1 files noted).1 = .ok () ∧
        Adds [] 0 [] (prepareFiles files.length 1 files noted).2 finished ∧
        run session = (.ok ⟨files, finished.routes, finished.progress.toList⟩, finished)) := by
  unfold run
  generalize collect session.start = found
  obtain ⟨answer, collected⟩ := found
  cases answer with
  | error fault => exact .inl ⟨fault, rfl, rfl⟩
  | ok files =>
    dsimp only
    have noted : Adds [] 0 [] collected
        (if files.isEmpty then collected.note (.nothingFound session.target.text)
          else collected) := by
      split
      · exact note_adds _ collected
      · exact .refl collected
    generalize (if files.isEmpty then collected.note (.nothingFound session.target.text)
      else collected) = between at noted
    refine .inr ⟨files, between, rfl, noted, ?_⟩
    generalize prepareFiles files.length 1 files between = prepared
    obtain ⟨done, last⟩ := prepared
    cases done with
    | error fault => exact .inl ⟨fault, rfl, rfl⟩
    | ok _ => exact .inr ⟨_, rfl, note_adds _ last, rfl⟩

theorem run_sameProject : SameProject session (run session).2 := by
  have started := collect_start_sameProject session
  rcases run_cases session with ⟨fault, -, same⟩ | ⟨files, noted, -, quiet, last⟩
  · rw [same]
    exact started
  · have prepared := started.trans
      (quiet.toSameProject.trans (prepareFiles_sameProject noted files.length 1 files))
    rcases last with ⟨fault, -, same⟩ | ⟨finished, -, report, same⟩
    · rw [same]
      exact prepared
    · rw [same]
      exact prepared.trans report.toSameProject

/-- A step keeps the settings and the target. -/
theorem apply_settings (step : Step) :
    (apply step session).2.settings = session.settings ∧
      (apply step session).2.target = session.target := by
  cases step with
  | run => exact ⟨(run_sameProject session).settings, (run_sameProject session).target⟩
  | prepareText name text => exact ⟨rfl, rfl⟩
  | prepareFile path =>
    have same := prepareFile_sameProject session path
    exact ⟨same.settings, same.target⟩
  | parseFile path =>
    have same := parseFile_adds session path
    exact ⟨same.settings, same.target⟩
  | collect => exact ⟨(collect_sameProject session).settings, (collect_sameProject session).target⟩
  | ignores path =>
    show (ignores path session).2.settings = _ ∧ (ignores path session).2.target = _
    unfold ignores
    split
    · exact ⟨rfl, rfl⟩
    · exact ⟨rfl, rfl⟩
  | write path entry => exact ⟨rfl, rfl⟩
  | remove path => exact ⟨rfl, rfl⟩
  | allRoutes => exact ⟨rfl, rfl⟩

/-- Steps keep the settings and the target. -/
theorem after_settings (steps : List Step) :
    (session.after steps).settings = session.settings ∧
      (session.after steps).target = session.target := by
  induction steps generalizing session with
  | nil => exact ⟨rfl, rfl⟩
  | cons step rest ih =>
    obtain ⟨settings, target⟩ := ih (apply step session).2
    obtain ⟨kept, keptTarget⟩ := apply_settings session step
    exact ⟨settings.trans kept, target.trans keptTarget⟩

end Steps

/-! ## One run -/

/-- The search for the files answers with what is found, unless it fails. -/
theorem collect_answer (session : Session) :
    let searched := Discovery.ofTarget session.tree session.settings session.target
    (collect session).1 = match searched.2 with
      | some fault => .error fault
      | none => .ok searched.1.found := by
  unfold collect
  dsimp only
  cases (Discovery.ofTarget session.tree session.settings session.target).2 with
  | some fault => rfl
  | none => rfl

/-- The search succeeds if the patterns can be read and the names can be compared. -/
theorem collect_succeeds {session : Session} (accepted : session.settings.Accepted)
    (usable : session.settings.ignored ≠ .unusable) : ∃ files, (collect session).1 = .ok files := by
  rw [collect_answer, Discovery.ofTarget_noFault accepted usable]
  exact ⟨_, rfl⟩

theorem collect_start (session : Session) : (collect session.start).1 = (collect session).1 := by
  rw [collect_answer, collect_answer]
  rfl

/-- At the start of a run, nothing but the files that are left out is counted, and nothing has been
reported. -/
theorem collect_start_state (session : Session) :
    (collect session.start).2.routes = [] ∧
      (collect session.start).2.counts =
        { skipped := (Discovery.ofTarget session.tree session.settings session.target).1.skipped } ∧
      (collect session.start).2.progress.toList = [] := by
  rw [collect_state]
  refine ⟨rfl, ?_, rfl⟩
  show FileCounts.mk 0 (0 + _) 0 = _
  rw [Nat.zero_add]
  rfl

/-- The files that are found; none where the search fails. -/
def filesFound (session : Session) : List Path := (collect session).1.toOption.getD []

theorem filesFound_eq_of_ok {session : Session} {files : List Path}
    (found : (collect session).1 = .ok files) :
    session.filesFound = files ∧
      (Discovery.ofTarget session.tree session.settings session.target).2 = none ∧
      (Discovery.ofTarget session.tree session.settings session.target).1.found = files := by
  refine ⟨by rw [filesFound, found]; rfl, ?_⟩
  rw [collect_answer] at found
  cases searched : (Discovery.ofTarget session.tree session.settings session.target).2 with
  | some fault =>
    rw [searched] at found
    cases found
  | none =>
    rw [searched] at found
    exact ⟨rfl, Except.ok.inj found⟩

/-- What is found are files below the target that are not left out. -/
theorem filesFound_spec {session : Session} {path : Path} (inside : path ∈ session.filesFound) :
    session.tree.isFile path ∧ session.target.Below path ∧
      session.settings.ignored.ignores? session.target path = some false := by
  cases found : (collect session).1 with
  | error fault =>
    rw [filesFound, found] at inside
    cases inside
  | ok files =>
    obtain ⟨listed, -, searched⟩ := filesFound_eq_of_ok found
    rw [listed, ← searched] at inside
    exact Discovery.ofTarget_found inside

theorem collect_files {session : Session} {files : List Path}
    (found : (collect session).1 = .ok files) : ∀ path ∈ files, session.tree.isFile path := by
  intro path inside
  rw [← (filesFound_eq_of_ok found).1] at inside
  exact (filesFound_spec inside).1

/-- **A run** gives the routes of the files that are found, file by file, reports the files and
counts their fates. -/
theorem run_eq {session : Session} {limit : Int}
    (integer : session.settings.sizeLimit = .integer limit) :
    let gathered := session.filesFound.flatMap (session.tree.routesAt session.parser limit)
    let skipped :=
      (Discovery.ofTarget session.tree session.settings session.target).1.skipped
    (run session).1 = (collect session).1.map (fun files =>
        ⟨files, gathered, progressOf files.length 1 files⟩) ∧
      (run session).2.routes = gathered ∧
      (run session).2.counts = { skipped } +
        (session.filesFound.map fun path => (session.tree.fateOf limit path).counts).sum := by
  dsimp only
  obtain ⟨unread, counted, silent⟩ := collect_start_state session
  have started := collect_start_sameProject session
  rcases run_cases session with ⟨fault, stopped, same⟩ | ⟨files, noted, found, quiet, last⟩
  · rw [collect_start] at stopped
    rw [same, filesFound, stopped]
    exact ⟨rfl, unread, counted.trans (FileCounts.add_zero _).symm⟩
  · have project := started.trans quiet.toSameProject
    rw [collect_start] at found
    have listed : ∀ path ∈ files, noted.tree.isFile path := project.tree ▸ collect_files found
    obtain ⟨done, prepared⟩ :=
      prepareFiles_adds files.length 1 files noted (project.settings ▸ integer) listed
    rw [project.tree, project.parser] at prepared
    rcases last with ⟨fault, failed, -⟩ | ⟨finished, -, report, same⟩
    · rw [failed] at done
      cases done
    · have all := quiet.between prepared report
      have routes :
          finished.routes = files.flatMap (session.tree.routesAt session.parser limit) := by
        rw [all.routes, unread, List.nil_append]
      have reports : finished.progress.toList = progressOf files.length 1 files := by
        rw [all.progress, silent, List.nil_append]
      rw [same, filesFound, found]
      refine ⟨?_, routes, ?_⟩
      · rw [routes, reports]
        rfl
      · rw [all.counts, counted]
        rfl

theorem run_answer {session : Session} {limit : Int}
    (integer : session.settings.sizeLimit = .integer limit) :
    (run session).1 = (collect session).1.map fun files =>
      ⟨files, files.flatMap (session.tree.routesAt session.parser limit),
        progressOf files.length 1 files⟩ := by
  rw [(run_eq integer).1, filesFound]
  cases (collect session).1 with
  | error fault => rfl
  | ok files => rfl

/-- **A run succeeds** if the patterns can be read, the names can be compared and the size limit is
a whole number. -/
theorem run_succeeds {session : Session} {limit : Int} (accepted : session.settings.Accepted)
    (usable : session.settings.ignored ≠ .unusable)
    (integer : session.settings.sizeLimit = .integer limit) :
    ∃ result, (run session).1 = .ok result := by
  obtain ⟨files, found⟩ := collect_succeeds accepted usable
  rw [run_answer integer, found]
  exact ⟨_, rfl⟩

/-- The routes that a run gives are those of the session after it. -/
theorem run_routes {session : Session} {result : Run} (done : (run session).1 = .ok result) :
    (run session).2.routes = result.routes := by
  rcases run_cases session with ⟨fault, -, same⟩ | ⟨files, noted, -, -, last⟩
  · rw [same] at done
    cases done
  · rcases last with ⟨fault, -, same⟩ | ⟨finished, -, -, same⟩
    · rw [same] at done
      cases done
    · rw [same] at done ⊢
      cases done
      rfl

/-- **The same outcome**: the same answer, the same counts and the same summary. -/
structure SameOutcome (first second : Except SessionFault Run × Session) : Prop where
  answer : first.1 = second.1
  counts : first.2.counts = second.2.counts
  summary : first.2.summary = second.2.summary

/-- **A run depends on the project alone.** -/
theorem run_sameOutcome {first second : Session} {limit : Int}
    (integer : first.settings.sizeLimit = .integer limit) (same : SameProject first second) :
    SameOutcome (run first) (run second) := by
  obtain ⟨tree, settings, target, parser⟩ := same
  have searched : (collect first).1 = (collect second).1 := by
    rw [collect_answer, collect_answer, tree, settings, target]
  have found : first.filesFound = second.filesFound := by
    rw [filesFound, filesFound, searched]
  obtain ⟨answer, routes, counts⟩ := run_eq integer
  obtain ⟨otherAnswer, otherRoutes, otherCounts⟩ := run_eq (settings ▸ integer)
  rw [← found, tree, parser, ← searched] at otherAnswer
  rw [← found, tree, parser] at otherRoutes
  rw [← found, tree, settings, target] at otherCounts
  refine ⟨answer.trans otherAnswer.symm, counts.trans otherCounts.symm, ?_⟩
  rw [summary, summary, counts, otherCounts, routes, otherRoutes]

end RouteTable.Session
