/-
**Every file is accounted for.**

The search lists each file that a pattern stands for and that is not ignored, once, and counts the
ignored ones. A run that is completed has counted every file that was listed as prepared, skipped
or errored, and has reported them in order.

* `IgnoredNames.OnTheWay`: a name between the target and a file is ignored;
* `FileCounts.total`, `Session.prepareFiles_ok`: every prepared file is counted once;
* `Session.run_report`: a completed run has counted and reported what was listed;
* `Session.matched`, `Session.leftOut`: the files that the patterns stand for;
* `Session.Accounted`, `Session.collect_accounted`: the account of one session.
-/

import Mathlib.Data.Set.Card
import RouteTable.Proofs.Files.Listing
import RouteTable.Proofs.Session.Run

namespace RouteTable

/-! ## Ignored names -/

namespace IgnoredNames

variable {ignored : IgnoredNames} {target path : Path}

/-- A name on the way from the target to a path is ignored. -/
def OnTheWay (ignored : IgnoredNames) (target path : Path) : Prop :=
  ∃ names, target.after? path = some names ∧ ∃ name ∈ names, ignored.contains? name = some true

theorem any_of_mapM {names : List String} {verdicts : List Bool}
    (said : names.mapM ignored.contains? = some verdicts) :
    verdicts.any id ↔ ∃ name ∈ names, ignored.contains? name = some true := by
  induction names generalizing verdicts with
  | nil =>
    cases said
    simp
  | cons name rest ih =>
    rw [List.mapM_cons] at said
    cases first : ignored.contains? name with
    | none =>
      rw [first] at said
      cases said
    | some verdict =>
      cases later : rest.mapM ignored.contains? with
      | none =>
        rw [first, later] at said
        cases said
      | some others =>
        rw [first, later] at said
        cases said
        simp [ih later, first]

theorem leavesOut_iff (below : target.Below path)
    (said : (ignored.ignores? target path).isSome) :
    ignored.leavesOut target path ↔ ignored.OnTheWay target path := by
  have after : target.after? path = some (path.names.drop target.names.length) := by
    rw [Path.after?, if_pos ⟨below.1, List.isPrefixOf_iff_prefix.mpr below.2⟩]
  unfold leavesOut OnTheWay
  unfold ignores? at said ⊢
  rw [after, Option.getD_some] at said ⊢
  cases verdicts : (path.names.drop target.names.length).mapM ignored.contains? with
  | none =>
    rw [verdicts] at said
    cases said
  | some found =>
    show found.any id ↔ _
    rw [any_of_mapM verdicts]
    simp

end IgnoredNames

/-! ## Counting -/

/-- How many files are counted. -/
def FileCounts.total (counts : FileCounts) : Nat :=
  counts.prepared + counts.skipped + counts.errored

theorem FileCounts.total_add (first second : FileCounts) :
    (first + second).total = first.total + second.total := by
  show first.prepared + second.prepared + (first.skipped + second.skipped) +
    (first.errored + second.errored) = _
  unfold total
  omega

theorem Fate.counts_total (fate : Fate) : fate.counts.total = 1 := by cases fate <;> rfl

namespace Session

variable {session : Session}

/-- The routes that a file gives. -/
def routesIn (session : Session) (path : Path) : List Route :=
  (session.fate? path).elim [] fun fate => fate.routes session.parser path.text

/-- The fates of files are the same in two sessions on one project. -/
theorem SameProject.fate?_eq {other : Session} (same : SameProject session other) :
    other.fate? = session.fate? := by
  funext path
  unfold fate?
  rw [same.tree, same.settings]

theorem SameProject.routesIn_eq {other : Session} (same : SameProject session other) :
    other.routesIn = session.routesIn := by
  funext path
  rw [routesIn, routesIn, same.fate?_eq, same.parser]

/-- **Files that are prepared one after the other** without a fault have a fate each, what they give
is added up, and each is reported under its number. -/
theorem prepareFiles_ok (total number : Nat) (files : List Path) (session : Session)
    (done : (prepareFiles total number files session).1 = .ok ()) :
    ∃ fates : List Fate, files.map session.fate? = fates.map some ∧
      Adds (files.flatMap session.routesIn) (fates.map Fate.counts).sum
        (progressOf total number files) session (prepareFiles total number files session).2 := by
  induction files generalizing number session with
  | nil => exact ⟨[], rfl, .refl session⟩
  | cons path rest ih =>
    cases known : session.fate? path with
    | none =>
      obtain ⟨fault, stopped⟩ := prepareFiles_cons_none known total number rest
      rw [stopped] at done
      cases done
    | some fate =>
      obtain ⟨after, step, same⟩ := prepareFiles_cons_some known total number rest
      rw [same] at done ⊢
      obtain ⟨fates, all, run⟩ := ih (number + 1) after done
      rw [step.fate?_eq] at all
      rw [step.routesIn_eq] at run
      refine ⟨fate :: fates, by rw [List.map_cons, List.map_cons, known, all], ?_⟩
      rw [List.flatMap_cons, routesIn, known, List.map_cons, List.sum_cons]
      exact step.trans run

theorem prepareFiles_total {total number : Nat} {files : List Path}
    (done : (prepareFiles total number files session).1 = .ok ()) :
    (prepareFiles total number files session).2.counts.total =
      session.counts.total + files.length := by
  obtain ⟨fates, all, run⟩ := prepareFiles_ok total number files session done
  have length : files.length = fates.length := by
    rw [← List.length_map session.fate?, all, List.length_map]
  have counted : (fates.map Fate.counts).sum.total = fates.length := by
    clear all run length
    induction fates with
    | nil => rfl
    | cons fate rest ih =>
      rw [List.map_cons, List.sum_cons, FileCounts.total_add, Fate.counts_total, ih,
        List.length_cons, Nat.add_comm]
  rw [run.counts, FileCounts.total_add, counted, length]

/-! ## The account -/

/-- The files that some pattern stands for. -/
def matched (session : Session) (patterns : List Datum) : Set Path :=
  {path | session.tree.isFile path ∧
    ∃ pattern ∈ patterns, Discovery.Matches session.tree session.target pattern path}

/-- The files with an ignored name on the way to them from the target. -/
def leftOut (session : Session) : Set Path :=
  {path | session.settings.ignored.OnTheWay session.target path}

/-- **What a search finds and a run counts.** -/
structure Accounted (session : Session) (patterns : List Datum) : Prop where
  /-- The search succeeds, unless a path cannot be compared with the ignored names. -/
  succeeds : session.settings.ignored ≠ .unusable → ∃ files, (collect session).1 = .ok files
  /-- Under a directory, every file of a pattern that is not left out is listed. -/
  exactly : session.tree.isDirectory session.target → ∀ files, (collect session).1 = .ok files →
    ∀ path, path ∈ files ↔ path ∈ session.matched patterns \ session.leftOut
  once : session.tree.isDirectory session.target → ∀ files, (collect session).1 = .ok files →
    files.Nodup
  ordered : session.tree.isDirectory session.target → ∀ files, (collect session).1 = .ok files →
    files.Pairwise (Discovery.ListedBefore session.tree session.target patterns)
  /-- The files that are left out are counted, and nothing else is. -/
  skipped : session.tree.isDirectory session.target → ∀ files, (collect session).1 = .ok files →
    (collect session).2.counts =
      { session.counts with
        skipped :=
          session.counts.skipped + (session.matched patterns ∩ session.leftOut).ncard }
  /-- A completed run has counted every file once. -/
  counted : ∀ result, (run session).1 = .ok result → (run session).2.counts.total =
    if session.tree.isFile session.target then 1 else (session.matched patterns).ncard
  /-- A completed run has reported the files that are listed, one after the other, and nothing
  else. -/
  reported : ∀ result, (run session).1 = .ok result → (collect session).1 = .ok result.files ∧
    (run session).2.progress.toList = result.progress ∧
    result.progress.length = result.files.length ∧
    ∀ index (inside : index < result.files.length), result.progress[index]? =
      some (index + 1, result.files.length, result.files[index])

section Account

variable {patterns : List Datum}

/-- What a successful search under a directory has seen, and which files it lists. -/
theorem collect_listing (items : session.settings.patterns? = some patterns)
    (directory : session.tree.isFile session.target = false) {files : List Path}
    (found : (collect session).1 = .ok files) :
    let discovery := (Discovery.ofTarget session.tree session.settings session.target).1
    Discovery.Listing session.tree session.settings.ignored session.target patterns discovery ∧
      discovery.found = files := by
  obtain ⟨-, noFault, listed⟩ := filesFound_eq_of_ok found
  exact ⟨Discovery.ofTarget_listing items directory noFault, listed⟩

/-- A file that was seen is left out if a name on the way to it is ignored. -/
theorem leavesOut_iff_mem_leftOut {path : Path}
    (seen : path ∈ (Discovery.ofTarget session.tree session.settings session.target).1.seen) :
    session.settings.ignored.leavesOut session.target path ↔ path ∈ session.leftOut := by
  have sound := Discovery.ofTarget_sound session.tree session.settings session.target
  obtain ⟨⟨-, below⟩, said⟩ := sound.files path seen
  exact IgnoredNames.leavesOut_iff below said

/-- A set of paths that a list without repetition names has as many members as the list. -/
theorem ncard_eq_length {set : Set Path} {list : List Path} (distinct : list.Nodup)
    (named : ∀ path, path ∈ list ↔ path ∈ set) : set.ncard = list.length := by
  have same : set = list.toFinset := by
    ext path
    rw [← named, List.coe_toFinset, Set.mem_ofPred_eq]
  rw [same, Set.ncard_coe_finset, List.toFinset_card_of_nodup distinct]

/-- A completed run has counted the files that were left out and those that were listed, and has
reported those that were listed. -/
theorem run_report {result : Run} (done : (run session).1 = .ok result) :
    (collect session).1 = .ok result.files ∧
      (run session).2.counts.total =
        (Discovery.ofTarget session.tree session.settings session.target).1.skipped +
          result.files.length ∧
      (run session).2.progress.toList = result.progress ∧
      result.progress = progressOf result.files.length 1 result.files := by
  rcases run_cases session with ⟨fault, -, same⟩ | ⟨files, noted, found, quiet, last⟩
  · rw [same] at done
    cases done
  · rcases last with ⟨fault, -, same⟩ | ⟨finished, prepared, report, same⟩
    · rw [same] at done
      cases done
    · rw [same] at done ⊢
      cases done
      obtain ⟨-, counted, silent⟩ := collect_start_state session
      obtain ⟨fates, -, loop⟩ := prepareFiles_ok _ _ _ noted prepared
      refine ⟨(collect_start session).symm.trans found, ?_, rfl, ?_⟩
      · rw [report.counts, FileCounts.add_zero, prepareFiles_total prepared, quiet.counts,
          FileCounts.add_zero, counted]
        simp [FileCounts.total]
      · rw [(quiet.between loop report).progress, silent, List.nil_append]

/-- **Discovery is exact and every file is accounted for.** -/
theorem collect_accounted (session : Session) (patterns : List Datum)
    (items : session.settings.patterns? = some patterns)
    (accepted : ∀ pattern ∈ patterns, Glob.Accepts pattern) : session.Accounted patterns where
  succeeds := collect_succeeds ⟨patterns, items, accepted⟩
  exactly directory files found path := by
    obtain ⟨listing, rfl⟩ := collect_listing items (FileTree.isFile_eq_false directory) found
    rw [listing.found, List.mem_filter, Set.mem_sdiff]
    constructor
    · rintro ⟨seen, kept⟩
      refine ⟨(listing.seen path).mp seen, fun out => ?_⟩
      rw [← leavesOut_iff_mem_leftOut seen] at out
      simp [out] at kept
    · rintro ⟨stands, kept⟩
      have seen := (listing.seen path).mpr stands
      rw [← leavesOut_iff_mem_leftOut seen] at kept
      exact ⟨seen, by simpa using kept⟩
  once directory files found := by
    obtain ⟨listing, rfl⟩ := collect_listing items (FileTree.isFile_eq_false directory) found
    rw [listing.found]
    exact listing.distinct.filter _
  ordered directory files found := by
    obtain ⟨listing, rfl⟩ := collect_listing items (FileTree.isFile_eq_false directory) found
    rw [listing.found]
    exact listing.ordered.filter _
  skipped directory files found := by
    obtain ⟨listing, -⟩ := collect_listing items (FileTree.isFile_eq_false directory) found
    rw [collect_state, listing.skipped, List.countP_eq_length_filter,
      ncard_eq_length (listing.distinct.filter _) fun path => ?_]
    rw [List.mem_filter, Set.mem_inter_iff]
    refine (and_congr_right fun seen => leavesOut_iff_mem_leftOut seen).trans ?_
    exact and_congr_left fun _ => listing.seen path
  counted result done := by
    obtain ⟨found, total, -⟩ := run_report done
    rw [total]
    by_cases file : session.tree.isFile session.target
    · obtain ⟨-, -, listed⟩ := filesFound_eq_of_ok found
      rw [Discovery.ofTarget, if_pos file] at listed ⊢
      rw [if_pos file, ← listed]
      rfl
    · obtain ⟨listing, listed⟩ := collect_listing items (Bool.eq_false_iff.mpr file) found
      have members : (session.matched patterns).ncard = _ :=
        ncard_eq_length listing.distinct listing.seen
      rw [if_neg file, members, ← listed, listing.found, listing.skipped,
        List.countP_eq_length_filter]
      exact (List.length_eq_length_filter_add _).symm
  reported result done := by
    obtain ⟨found, -, kept, reports⟩ := run_report done
    refine ⟨found, kept, ?_, fun index inside => ?_⟩
    · rw [reports, progressOf_length]
    · rw [reports, progressOf_getElem? inside, Nat.add_comm]

/-- A project with two patterns that both stand for its routing file, one of which also stands for a
file in an ignored directory. -/
theorem collect_accounted_overlapping :
    let listed : FileTree := {}
    let tree := (listed.write ["config", "routes.rb"] (.file "root 'home#index'".toUTF8)).write
      ["config", "tmp", "old.rb"] (.file "get '/old'".toUTF8)
    let globs := ["config/*.rb", "config/**/*.rb"]
    let session : Session :=
      { tree, settings := { Settings.default with globs := .texts globs }, target := ⟨"", []⟩ }
    session.settings.patterns? = some (globs.map Datum.text) ∧
      (∀ pattern ∈ globs.map Datum.text, Glob.Accepts pattern) ∧
      session.Accounted (globs.map Datum.text) := by
  intro listed tree globs session
  have accepted := @Glob.accepts_texts globs (by decide +kernel)
  exact ⟨rfl, accepted, collect_accounted session (globs.map Datum.text) rfl accepted⟩

end Account

end Session

end RouteTable
