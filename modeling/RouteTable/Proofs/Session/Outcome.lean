/-
**What becomes of a file.**

A routing file is too large, it cannot be read, or it is read and gives the routes that a new
recognizer finds in its text. Preparing a file does nothing else: it adds these routes to the ones
of the session and counts the file. Files that are prepared one after the other are reported, each
before it is prepared.

* `FileTree.fateOf`, `FileTree.routesAt`: the fate of a file and its routes;
* `Session.Adds`: what preparing does to a session;
* `Session.fate?`, `Session.prepareFile_fate`: the step for one file, under any size limit;
* `Session.fate?_integer`: the fate under a whole number as limit;
* `Session.prepareFiles_cons_none`, `Session.prepareFiles_cons_some`: the steps of the loop;
* `Session.progressOf`, `Session.prepareFiles_adds`: the run over a list of files.
-/

import RouteTable.Proofs.Walk.History
import RouteTable.Session

namespace RouteTable

/-! ## One file -/

/-- What becomes of a file. -/
inductive Fate
  | tooLarge
  | unreadable
  | read (text : String)

namespace Fate

/-- The fate of a file with a content under a size limit. -/
def ofContent (limit : Int) (content : ByteArray) : Fate :=
  if limit * bytesPerUnit < content.size then .tooLarge
  else match Text.Utf8.decode content with
    | .ok text => .read (String.ofList (FileTree.unifyLineEnds text.toList))
    | .error _ => .unreadable

/-- The routes of a file with a name: those that a new recognizer finds in the calls of its text. -/
def routes (parser : Source.Parser) (name : String) : Fate → List Route
  | .read text => (Recognizer.process (some name) ((parser text).1.map Value.call) {}).1
  | _ => []

/-- How a file is counted. -/
def counts : Fate → FileCounts
  | .tooLarge => { skipped := 1 }
  | .unreadable => { errored := 1 }
  | .read _ => { prepared := 1 }

end Fate

namespace FileTree

/-- The fate of what a path leads to. -/
def fateOf (tree : FileTree) (limit : Int) (path : Path) : Fate :=
  match tree.find path with
  | .ok (.file content) => .ofContent limit content
  | .ok .directory => if limit * bytesPerUnit < tree.directorySize then .tooLarge else .unreadable
  | .error _ => .unreadable

/-- The routes of what a path leads to. -/
def routesAt (tree : FileTree) (parser : Source.Parser) (limit : Int) (path : Path) : List Route :=
  (tree.fateOf limit path).routes parser path.text

variable (tree : FileTree) (parser : Source.Parser) (limit : Int) (path : Path)

/-- Only a file has routes; a directory has none, whatever its size. -/
theorem routesAt_eq : tree.routesAt parser limit path =
    match (tree.find path).toOption with
    | some (.file content) => (Fate.ofContent limit content).routes parser path.text
    | _ => [] := by
  unfold routesAt fateOf
  cases tree.find path with
  | error fault => rfl
  | ok entry =>
    cases entry with
    | file content => rfl
    | directory =>
      dsimp only
      split <;> rfl

/-- Every route of a file carries the path of the file. -/
theorem routesAt_file :
    ∀ route ∈ tree.routesAt parser limit path, route.file = some path.text := by
  intro route inside
  unfold routesAt at inside
  cases fate : tree.fateOf limit path with
  | tooLarge =>
    rw [fate] at inside
    cases inside
  | unreadable =>
    rw [fate] at inside
    cases inside
  | read text =>
    rw [fate, Fate.routes, Recognizer.process_routes] at inside
    obtain ⟨found, -, rfl⟩ := List.mem_map.mp inside
    rfl

end FileTree

/-! ## Counts -/

instance : Zero FileCounts := ⟨{}⟩

instance : Add FileCounts where
  add first second := {
    prepared := first.prepared + second.prepared
    skipped := first.skipped + second.skipped
    errored := first.errored + second.errored }

namespace FileCounts

theorem add_assoc (first second third : FileCounts) :
    first + second + third = first + (second + third) := by
  cases first
  cases second
  cases third
  exact FileCounts.mk.injEq .. ▸ ⟨Nat.add_assoc .., Nat.add_assoc .., Nat.add_assoc ..⟩

theorem add_zero (first : FileCounts) : first + 0 = first := rfl

theorem zero_add (first : FileCounts) : 0 + first = first := by
  cases first
  exact FileCounts.mk.injEq .. ▸ ⟨Nat.zero_add .., Nat.zero_add .., Nat.zero_add ..⟩

end FileCounts

/-! ## Sessions -/

namespace Session

/-- **Two sessions on the same project**: the files, the settings, the target and the parser are the
same. -/
structure SameProject (before after : Session) : Prop where
  tree : after.tree = before.tree
  settings : after.settings = before.settings
  target : after.target = before.target
  parser : after.parser = before.parser

theorem SameProject.refl (session : Session) : SameProject session session := ⟨rfl, rfl, rfl, rfl⟩

theorem SameProject.trans {first second third : Session} (before : SameProject first second)
    (after : SameProject second third) : SameProject first third :=
  ⟨after.tree.trans before.tree, after.settings.trans before.settings,
    after.target.trans before.target, after.parser.trans before.parser⟩

/-- **Routes, counts and reports are added to a session**, and nothing else changes but the
notices. -/
structure Adds (routes : List Route) (counts : FileCounts) (reports : List Progress)
    (before after : Session) : Prop extends SameProject before after where
  routes : after.routes = before.routes ++ routes
  counts : after.counts = before.counts + counts
  progress : after.progress.toList = before.progress.toList ++ reports

theorem Adds.refl (session : Session) : Adds [] 0 [] session session :=
  ⟨.refl session, (List.append_nil _).symm, rfl, (List.append_nil _).symm⟩

theorem Adds.trans {first second third : Session} {routes others : List Route}
    {counts more : FileCounts} {reports further : List Progress}
    (before : Adds routes counts reports first second)
    (after : Adds others more further second third) :
    Adds (routes ++ others) (counts + more) (reports ++ further) first third where
  toSameProject := before.toSameProject.trans after.toSameProject
  routes := by rw [after.routes, before.routes, List.append_assoc]
  counts := by rw [after.counts, before.counts, FileCounts.add_assoc]
  progress := by rw [after.progress, before.progress, List.append_assoc]

/-- What adds nothing, before and after, may be left out. -/
theorem Adds.between {first second third fourth : Session} {routes : List Route}
    {counts : FileCounts} {reports : List Progress} (before : Adds [] 0 [] first second)
    (middle : Adds routes counts reports second third) (after : Adds [] 0 [] third fourth) :
    Adds routes counts reports first fourth := by
  have all := (before.trans middle).trans after
  rwa [List.nil_append, List.append_nil, List.nil_append, List.append_nil, FileCounts.zero_add,
    FileCounts.add_zero] at all

/-- A notice adds nothing. -/
theorem note_adds (notice : Notice) (session : Session) :
    Adds [] 0 [] session (session.note notice) :=
  ⟨⟨rfl, rfl, rfl, rfl⟩, (List.append_nil _).symm, rfl, (List.append_nil _).symm⟩

theorem err_adds (notice : Notice) (session : Session) :
    Adds [] Fate.unreadable.counts [] session (err (session.note notice)) :=
  ⟨⟨rfl, rfl, rfl, rfl⟩, (List.append_nil _).symm, rfl, (List.append_nil _).symm⟩

theorem skip_adds (notice : Notice) (session : Session) :
    Adds [] Fate.tooLarge.counts [] session (skip (session.note notice)) :=
  ⟨⟨rfl, rfl, rfl, rfl⟩, (List.append_nil _).symm, rfl, (List.append_nil _).symm⟩

theorem report_adds (progress : Progress) (session : Session) :
    Adds [] 0 [progress] session (session.report progress) :=
  ⟨⟨rfl, rfl, rfl, rfl⟩, (List.append_nil _).symm, rfl, Array.toList_push⟩

/-- **A text that is in memory** gives the routes that a new recognizer finds in it. -/
theorem prepareText_adds (name text : String) (session : Session) :
    (session.prepareText name text).1 = (Fate.read text).routes session.parser name ∧
      Adds ((Fate.read text).routes session.parser name) (Fate.read text).counts [] session
        (session.prepareText name text).2 := by
  have noted (notices : List Notice) (recognizer : Recognizer) :
      (notices.foldl (fun recognizer notice => recognizer.note notice) recognizer).registry =
        recognizer.registry := by
    induction notices generalizing recognizer with
    | nil => rfl
    | cons notice rest ih => exact ih (recognizer.note notice)
  unfold prepareText Fate.routes
  dsimp only
  rw [Recognizer.process_routes, Recognizer.process_routes]
  refine ⟨rfl, ⟨rfl, rfl, rfl, rfl⟩, ?_, rfl, (List.append_nil _).symm⟩
  unfold routes
  dsimp only
  rw [Recognizer.process_registry, noted]
  rfl

/-- The fate of a file in a session; none if the path has a null character or the size limit is no
number. -/
def fate? (session : Session) (path : Path) : Option Fate :=
  match session.tree.size path with
  | .error .nullCharacter => none
  | .error _ => some .unreadable
  | .ok size =>
    (exceeds? size session.settings.sizeLimit).map fun large =>
      if large then .tooLarge
      else match session.tree.readText path with
        | .ok text => .read text
        | .error _ => .unreadable

/-- Without a fate, preparing a file fails and changes nothing. -/
theorem prepareFile_fault {session : Session} {path : Path} (unknown : session.fate? path = none) :
    ∃ fault, session.prepareFile path = (.error fault, session) := by
  unfold fate? at unknown
  unfold prepareFile
  dsimp only
  cases sized : session.tree.size path with
  | error fault =>
    rw [sized] at unknown
    cases fault with
    | nullCharacter => exact ⟨_, rfl⟩
    | missing | isDirectory | throughFile => cases unknown
  | ok size =>
    rw [sized] at unknown
    dsimp only at unknown ⊢
    rw [Option.map_eq_none_iff.mp unknown]
    exact ⟨_, rfl⟩

/-- **Preparing a file** adds the routes of its fate and counts the fate. -/
theorem prepareFile_fate {session : Session} {path : Path} {fate : Fate}
    (known : session.fate? path = some fate) :
    (session.prepareFile path).1 = .ok (fate.routes session.parser path.text) ∧
      Adds (fate.routes session.parser path.text) fate.counts [] session
        (session.prepareFile path).2 := by
  unfold fate? at known
  unfold prepareFile
  dsimp only
  cases sized : session.tree.size path with
  | error fault =>
    rw [sized] at known
    cases fault with
    | nullCharacter => cases known
    | missing | isDirectory | throughFile =>
      cases known
      exact ⟨rfl, err_adds _ session⟩
  | ok size =>
    rw [sized] at known
    obtain ⟨large, compared, rfl⟩ := Option.map_eq_some_iff.mp known
    dsimp only
    rw [compared]
    cases large with
    | true => exact ⟨rfl, skip_adds _ session⟩
    | false =>
      rw [if_neg Bool.false_ne_true]
      cases session.tree.readText path with
      | error fault => exact ⟨rfl, err_adds _ session⟩
      | ok text =>
        obtain ⟨answer, adds⟩ := prepareText_adds path.text text session
        exact ⟨congrArg Except.ok answer, adds⟩

/-! ## Files in order -/

section Loop

variable {session : Session} {path : Path}

/-- A file without a fate stops the files after it. -/
theorem prepareFiles_cons_none (unknown : session.fate? path = none) (total number : Nat)
    (rest : List Path) :
    ∃ fault, prepareFiles total number (path :: rest) session =
      (.error fault, session.report (number, total, path)) := by
  have still : (session.report (number, total, path)).fate? path = none := unknown
  obtain ⟨fault, stopped⟩ := prepareFile_fault still
  exact ⟨fault, by rw [prepareFiles, stopped]⟩

/-- A file with a fate is reported and prepared, and then those after it are. -/
theorem prepareFiles_cons_some {fate : Fate} (known : session.fate? path = some fate)
    (total number : Nat) (rest : List Path) :
    ∃ after,
      Adds (fate.routes session.parser path.text) fate.counts [(number, total, path)] session
        after ∧
      prepareFiles total number (path :: rest) session =
        prepareFiles total (number + 1) rest after := by
  have still : (session.report (number, total, path)).fate? path = some fate := known
  obtain ⟨answer, step⟩ := prepareFile_fate still
  have both := (report_adds (number, total, path) session).trans step
  rw [FileCounts.zero_add] at both
  refine ⟨_, both, ?_⟩
  rw [prepareFiles]
  generalize (session.report (number, total, path)).prepareFile path = prepared at answer
  obtain ⟨_, after⟩ := prepared
  obtain rfl : _ = Except.ok _ := answer
  rfl

/-- With a whole number as limit, the fate of a file depends on the tree alone. -/
theorem fate?_integer {limit : Int} (integer : session.settings.sizeLimit = .integer limit)
    (file : session.tree.isFile path) :
    session.fate? path = some (session.tree.fateOf limit path) := by
  unfold fate? FileTree.size FileTree.readText FileTree.fateOf
  unfold FileTree.isFile at file
  rw [integer]
  cases found : session.tree.find path with
  | error fault =>
    rw [found] at file
    cases file
  | ok entry =>
    cases entry with
    | directory =>
      rw [found] at file
      cases file
    | file content =>
      show some (if decide _ = true then _ else _) = some (Fate.ofContent limit content)
      simp only [decide_eq_true_eq, FileTree.textOf, Fate.ofContent]
      cases Text.Utf8.decode content <;> rfl

/-- What is reported of files, out of `total` files and from one with a number on. -/
def progressOf (total number : Nat) (files : List Path) : List Progress :=
  (files.zipIdx number).map fun file => (file.2, total, file.1)

theorem progressOf_length (total number : Nat) (files : List Path) :
    (progressOf total number files).length = files.length := by
  rw [progressOf, List.length_map, List.length_zipIdx]

theorem progressOf_getElem? {total number index : Nat} {files : List Path}
    (inside : index < files.length) : (progressOf total number files)[index]? =
      some (number + index, total, files[index]) := by
  rw [progressOf, List.getElem?_map, List.getElem?_zipIdx, List.getElem?_eq_getElem inside]
  rfl

/-- **Preparing files in order** adds the routes of each, counts each fate and reports each file
under its number. -/
theorem prepareFiles_adds {limit : Int} (total number : Nat) (files : List Path)
    (session : Session) (integer : session.settings.sizeLimit = .integer limit)
    (listed : ∀ path ∈ files, session.tree.isFile path) :
    (prepareFiles total number files session).1 = .ok () ∧
      Adds (files.flatMap (session.tree.routesAt session.parser limit))
        (files.map fun path => (session.tree.fateOf limit path).counts).sum
        (progressOf total number files) session
        (prepareFiles total number files session).2 := by
  induction files generalizing number session with
  | nil => exact ⟨rfl, .refl session⟩
  | cons path rest ih =>
    obtain ⟨file, others⟩ := List.forall_mem_cons.mp listed
    obtain ⟨after, step, same⟩ :=
      prepareFiles_cons_some (fate?_integer integer file) total number rest
    rw [same]
    obtain ⟨done, run⟩ := ih (number + 1) after (step.settings ▸ integer) (step.tree ▸ others)
    rw [step.tree, step.parser] at run
    exact ⟨done, step.trans run⟩

end Loop

end Session

end RouteTable
