/-
**The routes of a session since its last run.**

A run takes away the routes and counts of a session and lists its own. Everything prepared after it
is added at the end, and no other step changes the routes or the number of prepared files, whether
it fails or not.

* `Session.events`, `Session.sinceRun`: what was done in a session, and what of it since the last
  run;
* `Session.Event.listed`, `Session.Event.prepared`: the routes and the prepared files of an event;
* `Session.prepareFiles_fault`, `Session.run_ledger`: a run, also one that fails;
* `Session.Ledger`, `Session.Ledger.apply`: the invariant, and that every step keeps it;
* `Session.after_ledger`: it holds after any steps in a new session.
-/

import RouteTable.Proofs.Session.Accounting

namespace RouteTable

/-! ## Files that are read -/

/-- Whether a file is read. -/
def Fate.isRead : Fate → Bool
  | .read _ => true
  | _ => false

theorem Fate.counts_prepared (fate : Fate) :
    fate.counts.prepared = if fate.isRead then 1 else 0 := by cases fate <;> rfl

theorem Fate.routes_eq_nil {fate : Fate} (unread : fate.isRead = false) (parser : Source.Parser)
    (name : String) : fate.routes parser name = [] := by
  cases fate with
  | tooLarge => rfl
  | unreadable => rfl
  | read text => cases unread

theorem Fate.sum_counts_prepared (fates : List Fate) :
    (fates.map counts).sum.prepared = fates.countP isRead := by
  induction fates with
  | nil => rfl
  | cons fate rest ih =>
    rw [List.map_cons, List.sum_cons, List.countP_cons]
    show fate.counts.prepared + (rest.map counts).sum.prepared = _
    rw [ih, fate.counts_prepared, Nat.add_comm]

/-- A limit that is no number cannot be compared with any size. -/
theorem exceeds?_none {limit : Datum} {size : Nat} (unknown : exceeds? size limit = none)
    (other : Nat) : exceeds? other limit = none := by
  unfold exceeds? at unknown ⊢
  split at unknown
  · cases unknown
  · cases unknown
  · cases unknown
  · rfl

namespace Session

variable {session : Session}

/-- Whether a file is prepared without error: it is not too large, and its text can be read. -/
def reads (session : Session) (path : Path) : Bool := (session.fate? path).any Fate.isRead

theorem SameProject.reads_eq {other : Session} (same : SameProject session other) :
    other.reads = session.reads := by
  funext path
  rw [reads, reads, same.fate?_eq]

/-- Where a file that is there has no fate, it is for the limit, and no file is read. -/
theorem reads_eq_false {path : Path} (file : session.tree.isFile path)
    (unknown : session.fate? path = none) (other : Path) : session.reads other = false := by
  have sized : ∃ size, session.tree.size path = .ok size := by
    unfold FileTree.isFile at file
    unfold FileTree.size
    cases found : session.tree.find path with
    | error fault =>
      rw [found] at file
      cases file
    | ok entry => cases entry <;> exact ⟨_, rfl⟩
  obtain ⟨size, sized⟩ := sized
  unfold fate? at unknown
  rw [sized] at unknown
  have never := exceeds?_none (Option.map_eq_none_iff.mp unknown)
  unfold reads fate?
  cases session.tree.size other with
  | error fault => cases fault <;> rfl
  | ok size =>
    dsimp only
    rw [never]
    rfl

/-- Files are counted as prepared if they are read. -/
theorem countP_reads {files : List Path} {fates : List Fate}
    (known : files.map session.fate? = fates.map some) :
    files.countP session.reads = fates.countP Fate.isRead := by
  calc files.countP session.reads
      = (files.map session.fate?).countP fun fate => fate.any Fate.isRead :=
        (List.countP_map ..).symm
    _ = fates.countP Fate.isRead := by
        rw [known, List.countP_map]
        rfl

/-- **Files that fail** for their limit: nothing is listed, and no file is read. -/
theorem prepareFiles_fault {fault : SessionFault} (total number : Nat) (files : List Path)
    (session : Session) (listed : ∀ path ∈ files, session.tree.isFile path)
    (failed : (prepareFiles total number files session).1 = .error fault) :
    (∀ path, session.reads path = false) ∧
      ∃ (counts : FileCounts) (reports : List Progress), counts.prepared = 0 ∧
        Adds [] counts reports session (prepareFiles total number files session).2 := by
  induction files generalizing number session with
  | nil => cases failed
  | cons path rest ih =>
    obtain ⟨file, others⟩ := List.forall_mem_cons.mp listed
    cases known : session.fate? path with
    | none =>
      obtain ⟨stop, stopped⟩ := prepareFiles_cons_none known total number rest
      rw [stopped]
      exact ⟨reads_eq_false file known, 0, _, rfl, report_adds _ session⟩
    | some fate =>
      obtain ⟨after, step, same⟩ := prepareFiles_cons_some known total number rest
      rw [same] at failed ⊢
      obtain ⟨unread, counts, reports, none, run⟩ :=
        ih (number + 1) after (step.tree ▸ others) failed
      rw [step.reads_eq] at unread
      have here : fate.isRead = false := by
        have unreadHere := unread path
        rwa [reads, known] at unreadHere
      rw [Fate.routes_eq_nil here] at step
      refine ⟨unread, fate.counts + counts, _, ?_, step.trans run⟩
      show fate.counts.prepared + counts.prepared = 0
      rw [fate.counts_prepared, here, none]
      rfl

/-- **A run** leaves the routes that it answers, or none where it fails, and has counted as prepared
the files that are read. -/
theorem run_ledger (session : Session) :
    (run session).2.routes = ((run session).1.map Run.routes).toOption.getD [] ∧
      (run session).2.counts.prepared = session.filesFound.countP session.reads := by
  obtain ⟨unlisted, counted, -⟩ := collect_start_state session
  have started := collect_start_sameProject session
  rcases run_cases session with ⟨fault, stopped, same⟩ | ⟨files, noted, found, quiet, last⟩
  · rw [collect_start] at stopped
    rw [same, filesFound, stopped, counted]
    exact ⟨unlisted, rfl⟩
  · have project := started.trans quiet.toSameProject
    rw [collect_start] at found
    have listed : ∀ path ∈ files, noted.tree.isFile path := project.tree ▸ collect_files found
    rw [(filesFound_eq_of_ok found).1, ← project.reads_eq]
    rcases last with ⟨fault, failed, same⟩ | ⟨finished, done, report, same⟩
    · obtain ⟨unread, counts, reports, none, prepared⟩ :=
        prepareFiles_fault _ _ files noted listed failed
      have all := quiet.trans prepared
      rw [same]
      refine ⟨by rw [all.routes, unlisted]; rfl, ?_⟩
      rw [all.counts, counted,
        List.countP_eq_zero.mpr fun path _ => Bool.eq_false_iff.mp (unread path)]
      exact (Nat.zero_add _).trans ((Nat.zero_add _).trans none)
    · obtain ⟨fates, known, prepared⟩ := prepareFiles_ok _ _ files noted done
      have all := (quiet.trans prepared).trans report
      rw [same]
      refine ⟨rfl, ?_⟩
      rw [all.counts, counted, countP_reads known, ← Fate.sum_counts_prepared,
        FileCounts.add_zero, FileCounts.zero_add]
      exact Nat.zero_add _

/-! ## Events -/

/-- A step that was carried out: the session that it found, and what it answered. -/
structure Event where
  step : Step
  before : Session
  answer : Except SessionFault Answer

namespace Event

/-- A step in a session. -/
def of (step : Step) (session : Session) : Event := ⟨step, session, (apply step session).1⟩

def isRun (event : Event) : Bool := event.step = .run

/-- The routes that a run or a preparation gave; none if it failed. -/
def listed (event : Event) : List Route :=
  match event.step, event.answer with
  | .run, .ok (.ran result) => result.routes
  | .prepareText _ _, .ok (.routes found) => found
  | .prepareFile _, .ok (.routes found) => found
  | _, _ => []

/-- How many files and texts were prepared without error. -/
def prepared (event : Event) : Nat :=
  match event.step with
  | .run => event.before.filesFound.countP event.before.reads
  | .prepareText _ _ => 1
  | .prepareFile path => if event.before.reads path then 1 else 0
  | _ => 0

end Event

/-- The events of steps. -/
def events : List Step → Session → List Event
  | [], _ => []
  | step :: rest, session => .of step session :: events rest (apply step session).2

/-- The events from the last run on; all events if there is no run. -/
def sinceRun : List Event → List Event
  | [] => []
  | event :: rest => if rest.any Event.isRun then sinceRun rest else event :: rest

theorem sinceRun_concat (past : List Event) (event : Event) :
    sinceRun (past ++ [event]) = if event.isRun then [event] else sinceRun past ++ [event] := by
  induction past with
  | nil => simp [sinceRun]
  | cons first rest ih =>
    rw [List.cons_append, sinceRun, sinceRun, ih]
    by_cases last : event.isRun
    · simp [last]
    · by_cases earlier : rest.any Event.isRun
      · simp [last, earlier]
      · simp [last, earlier]

/-! ## The invariant -/

/-- **What a session has listed and prepared** is what was listed and prepared since its last
run. -/
structure Ledger (past : List Event) (session : Session) : Prop where
  routes : session.routes = (sinceRun past).flatMap Event.listed
  prepared : session.counts.prepared = ((sinceRun past).map Event.prepared).sum

theorem ledger_start (tree : FileTree) (settings : Settings) (target : Path)
    (parser : Source.Parser) : Ledger [] { tree, settings, target, parser } := ⟨rfl, rfl⟩

variable {past : List Event}

/-- After a run, the run alone counts. -/
theorem Ledger.run (session : Session) : Ledger (past ++ [.of .run session]) (run session).2 := by
  obtain ⟨routes, counted⟩ := run_ledger session
  have recent : sinceRun (past ++ [.of .run session]) = [.of .run session] :=
    sinceRun_concat past _
  refine ⟨?_, ?_⟩
  · rw [recent, List.flatMap_singleton, routes]
    show _ = Event.listed ⟨.run, session, (Session.run session).1.map .ran⟩
    cases (Session.run session).1 <;> rfl
  · rw [recent, List.map_singleton, List.sum_singleton, counted]
    rfl

/-- A step that is no run adds to what is there. -/
theorem Ledger.concat {after : Session} {event : Event} (ledger : Ledger past session)
    (other : event.isRun = false) (routes : after.routes = session.routes ++ event.listed)
    (prepared : after.counts.prepared = session.counts.prepared + event.prepared) :
    Ledger (past ++ [event]) after := by
  have recent : sinceRun (past ++ [event]) = sinceRun past ++ [event] := by
    rw [sinceRun_concat, other, if_neg Bool.false_ne_true]
  refine ⟨?_, ?_⟩
  · rw [recent, List.flatMap_append, List.flatMap_singleton, routes, ledger.routes]
  · rw [recent, List.map_append, List.sum_append, List.map_singleton, List.sum_singleton, prepared,
      ledger.prepared]

/-- A step that lists and prepares nothing. -/
theorem Ledger.concat_silent {after : Session} {event : Event} (ledger : Ledger past session)
    (other : event.isRun = false) (silent : event.listed = [] ∧ event.prepared = 0)
    (routes : after.routes = session.routes)
    (prepared : after.counts.prepared = session.counts.prepared) :
    Ledger (past ++ [event]) after :=
  ledger.concat other (by rw [silent.1, routes, List.append_nil]) (by rw [silent.2, prepared]; rfl)

/-- Preparing a file lists the routes that it answers and counts the file if it is read. -/
theorem Ledger.prepareFile (ledger : Ledger past session) (path : Path) :
    Ledger (past ++ [.of (.prepareFile path) session]) (session.prepareFile path).2 := by
  have event : Event.of (.prepareFile path) session =
    ⟨.prepareFile path, session, (session.prepareFile path).1.map .routes⟩ := rfl
  rw [event]
  cases known : session.fate? path with
  | none =>
    have unread : session.reads path = false := by rw [reads, known]; rfl
    obtain ⟨fault, stopped⟩ := prepareFile_fault known
    rw [stopped]
    exact ledger.concat rfl (List.append_nil _).symm (by simp [Event.prepared, unread])
  | some fate =>
    obtain ⟨answer, adds⟩ := prepareFile_fate known
    have read : session.reads path = fate.isRead := by rw [reads, known]; rfl
    rw [answer]
    refine ledger.concat rfl adds.routes ?_
    show _ = _ + if session.reads path then 1 else 0
    rw [adds.counts, read, ← fate.counts_prepared]
    rfl

/-- **Every step keeps the ledger**, whether it succeeds or fails. -/
theorem Ledger.apply (ledger : Ledger past session) (step : Step) :
    Ledger (past ++ [.of step session]) (apply step session).2 := by
  cases step with
  | run => exact Ledger.run session
  | prepareText name text =>
    obtain ⟨answer, adds⟩ := prepareText_adds name text session
    refine ledger.concat rfl ?_ (prepareText_prepared name text session)
    show _ = _ ++ (session.prepareText name text).1
    rw [answer]
    exact adds.routes
  | prepareFile path => exact ledger.prepareFile path
  | parseFile path =>
    have adds := parseFile_adds session path
    exact ledger.concat_silent rfl ⟨rfl, rfl⟩ (adds.routes.trans (List.append_nil _))
      (congrArg FileCounts.prepared adds.counts)
  | collect =>
    have state : (Session.apply .collect session).2 = _ := collect_state session
    rw [state]
    exact ledger.concat_silent rfl ⟨rfl, rfl⟩ rfl rfl
  | ignores path =>
    have same : (Session.apply (.ignores path) session).2 = session := by
      show (ignores path session).2 = session
      unfold ignores
      split <;> rfl
    rw [same]
    exact ledger.concat_silent rfl ⟨rfl, rfl⟩ rfl rfl
  | write path entry => exact ledger.concat_silent rfl ⟨rfl, rfl⟩ rfl rfl
  | remove path => exact ledger.concat_silent rfl ⟨rfl, rfl⟩ rfl rfl
  | allRoutes => exact ledger.concat_silent rfl ⟨rfl, rfl⟩ rfl rfl

theorem Ledger.after (ledger : Ledger past session) (steps : List Step) :
    Ledger (past ++ events steps session) (session.after steps) := by
  induction steps generalizing past session with
  | nil =>
    rw [events, List.append_nil]
    exact ledger
  | cons step rest ih =>
    have run := ih (ledger.apply step)
    rwa [List.append_assoc] at run

/-- **The routes of a session** are those of its last run, followed by those that were prepared
since, and its counts and its summary go with them: with any parser and after any steps, some of
which may fail. -/
theorem after_ledger (tree : FileTree) (settings : Settings) (target : Path)
    (parser : Source.Parser) (steps : List Step) :
    let session : Session := { tree, settings, target, parser }
    let now := session.after steps
    let recent := sinceRun (session.events steps)
    (Session.apply .allRoutes now).1 = .ok (.routes (recent.flatMap Event.listed)) ∧
      now.counts.prepared = (recent.map Event.prepared).sum ∧
      now.summary.files = now.counts ∧
      now.summary.total = (recent.flatMap Event.listed).length := by
  have ledger := (ledger_start tree settings target parser).after steps
  refine ⟨?_, ledger.prepared, rfl, ?_⟩
  · show Except.ok (Answer.routes _) = _
    rw [ledger.routes]
    rfl
  · show (routes _).length = _
    rw [ledger.routes]
    rfl

end Session

end RouteTable
