/-
**Finding the routing files of a project.**

With patterns that can be read, the search ends with a list of files, none of them ignored. After
one file was changed it gives the same list, that file apart.

* `Settings.Accepted`: all patterns can be read;
* `Discovery.explore_cons`: one pattern of a search;
* `Discovery.Sound`, `Discovery.ofTarget_found`: only files that are not ignored are found;
* `Discovery.ofTarget_noFault`: when the search succeeds;
* `Discovery.Alike`, `Discovery.ofTarget_alike`: what is found after one file was changed.
-/

import RouteTable.Discovery
import RouteTable.Proofs.Files.Search

namespace RouteTable

/-- A pattern that can be read. -/
def Glob.Accepts (pattern : Datum) : Prop :=
  ∃ text read, pattern = .text text ∧ Glob.partsOf text = .ok read

/-- The patterns of the settings; without any, the default ones. -/
def Settings.patterns? (settings : Settings) : Option (List Datum) :=
  Settings.itemsOf? (if settings.globs.isTruthy then settings.globs else .texts defaultGlobs)

/-- All patterns of the settings can be read. -/
def Settings.Accepted (settings : Settings) : Prop :=
  ∃ patterns, settings.patterns? = some patterns ∧ ∀ pattern ∈ patterns, Glob.Accepts pattern

theorem Glob.accepts_text {text : String} (readable : (Glob.partsOf text).isOk) :
    Glob.Accepts (.text text) := by
  cases parts : Glob.partsOf text with
  | error fault =>
    rw [parts] at readable
    cases readable
  | ok read => exact ⟨text, read, rfl, parts⟩

theorem Glob.accepts_texts {texts : List String}
    (readable : ∀ text ∈ texts, (Glob.partsOf text).isOk) :
    ∀ pattern ∈ texts.map Datum.text, Glob.Accepts pattern := by
  intro pattern inside
  obtain ⟨text, listed, rfl⟩ := List.mem_map.mp inside
  exact Glob.accepts_text (readable text listed)

/-- The default patterns can be read. -/
theorem Settings.default_accepted : Settings.default.Accepted :=
  ⟨defaultGlobs.map Datum.text, rfl, Glob.accepts_texts (by decide +kernel)⟩

/-- Whether a path that is looked at is left out. -/
def IgnoredNames.leavesOut (ignored : IgnoredNames) (target path : Path) : Bool :=
  (ignored.ignores? target path).getD false

/-- A path that begins with another one. -/
def Path.Below (start path : Path) : Prop := path.root = start.root ∧ start.names <+: path.names

namespace Path.Below

variable {start between path : Path}

theorem refl (path : Path) : path.Below path := ⟨rfl, List.prefix_rfl⟩

theorem trans (first : start.Below between) (second : between.Below path) : start.Below path :=
  ⟨second.1.trans first.1, first.2.trans second.2⟩

theorem child (path : Path) (name : String) : path.Below (path.child name) :=
  ⟨rfl, List.prefix_append _ _⟩

end Path.Below

/-! ## Patterns -/

namespace Glob

variable {tree : FileTree} {target : Path} {pattern : String} {paths : List Path}

theorem directoriesUnder_below (depth : Nat) {start path : Path}
    (inside : path ∈ directoriesUnder tree depth start) : start.Below path := by
  induction depth generalizing start with
  | zero =>
    obtain rfl := List.mem_singleton.mp inside
    exact .refl path
  | succ depth ih =>
    rw [directoriesUnder] at inside
    rcases List.mem_cons.mp inside with rfl | deeper
    · exact .refl path
    · obtain ⟨entry, -, under⟩ := List.mem_flatMap.mp deeper
      split at under
      · exact (Path.Below.child start entry.1).trans (ih under)
      · cases under

/-- What the parts of a pattern stand for begins with the path that they are searched from. -/
theorem select_below (parts : List Part) {start path : Path}
    (inside : path ∈ select tree parts start) : start.Below path := by
  induction parts generalizing start with
  | nil =>
    obtain rfl := List.mem_singleton.mp inside
    exact .refl path
  | cons part rest ih =>
    cases part with
    | anyDepth =>
      rw [select, List.mem_eraseDups] at inside
      obtain ⟨directory, above, below⟩ := List.mem_flatMap.mp inside
      exact (directoriesUnder_below _ above).trans (ih below)
    | exact name =>
      have next := Path.Below.child start name
      rw [select] at inside
      generalize (if rest.isEmpty then (tree.find (start.child name)).isOk
        else tree.isDirectory (start.child name)) = found at inside
      cases found with
      | true => exact next.trans (ih inside)
      | false => exact absurd inside List.not_mem_nil
    | wild pieces =>
      rw [select] at inside
      obtain ⟨name, -, below⟩ := List.mem_flatMap.mp inside
      exact (Path.Below.child start name).trans (ih below)

theorem files_ok (tree : FileTree) (target : Path) {read : List Part × Bool}
    (accepted : partsOf pattern = .ok read) : ∃ paths, files tree target pattern = .ok paths := by
  obtain ⟨parts, directories⟩ := read
  unfold files
  rw [accepted]
  show ∃ paths, (ite _ _ _ : Except Fault (List Path)) = .ok paths
  split
  · exact ⟨_, rfl⟩
  · exact ⟨_, rfl⟩

/-- A pattern stands for files below the target. -/
theorem files_spec (found : files tree target pattern = .ok paths) :
    (∀ path ∈ paths, tree.isFile path ∧ target.Below path) ∧
      (tree.isDirectory target = false → paths = []) := by
  unfold files at found
  cases accepted : partsOf pattern with
  | error fault =>
    rw [accepted] at found
    cases found
  | ok read =>
    obtain ⟨parts, directories⟩ := read
    rw [accepted] at found
    change (ite _ _ _ : Except Fault (List Path)) = .ok paths at found
    split at found
    · cases found
      exact ⟨fun path inside => absurd inside List.not_mem_nil, fun _ => rfl⟩
    · next below =>
      cases found
      constructor
      · intro path inside
        obtain ⟨selected, file⟩ := List.mem_filter.mp (List.mem_mergeSort.mp inside)
        exact ⟨file, select_below parts selected⟩
      · intro noDirectory
        simp [noDirectory] at below

end Glob

namespace IgnoredNames

variable {ignored : IgnoredNames}

theorem contains?_isSome (usable : ignored ≠ .unusable) (name : String) :
    (ignored.contains? name).isSome := by
  cases ignored with
  | among names => rfl
  | within text => rfl
  | unusable => exact absurd rfl usable

theorem ignores?_isSome (usable : ignored ≠ .unusable) (target path : Path) :
    (ignored.ignores? target path).isSome := by
  have verdicts (names : List String) : (names.mapM ignored.contains?).isSome := by
    induction names with
    | nil => rfl
    | cons name rest ih =>
      obtain ⟨verdict, said⟩ := Option.isSome_iff_exists.mp (contains?_isSome usable name)
      obtain ⟨others, later⟩ := Option.isSome_iff_exists.mp ih
      rw [List.mapM_cons, said, later]
      rfl
  obtain ⟨all, said⟩ := Option.isSome_iff_exists.mp
    (verdicts ((target.after? path).getD path.parts))
  rw [ignores?, said]
  rfl

/-- The target itself is never ignored. -/
theorem ignores?_target (target : Path) : ignored.ignores? target target = some false := by
  have nothing : target.after? target = some [] := by simp [Path.after?]
  rw [ignores?, nothing]
  rfl

end IgnoredNames

namespace Discovery

/-! ## One search -/

section OneSearch

variable {tree : FileTree} {ignored : IgnoredNames} {target : Path}

theorem filesOf_ok (tree : FileTree) (target : Path) {pattern : Datum}
    (accepted : Glob.Accepts pattern) : ∃ paths, filesOf tree target pattern = .ok paths := by
  obtain ⟨text, read, rfl, parts⟩ := accepted
  obtain ⟨paths, found⟩ := Glob.files_ok tree target parts
  exact ⟨paths, by rw [filesOf, found]; rfl⟩

/-- Only a text is a pattern. -/
theorem filesOf_text {pattern : Datum} {paths : List Path}
    (found : filesOf tree target pattern = .ok paths) :
    ∃ text, pattern = .text text ∧ Glob.files tree target text = .ok paths := by
  unfold filesOf at found
  split at found
  · next text =>
    refine ⟨text, rfl, ?_⟩
    cases searched : Glob.files tree target text with
    | error fault =>
      rw [searched] at found
      cases found
    | ok listed =>
      rw [searched] at found
      cases found
      rfl
  · cases found

theorem filesOf_spec {pattern : Datum} {paths : List Path}
    (found : filesOf tree target pattern = .ok paths) :
    (∀ path ∈ paths, tree.isFile path ∧ target.Below path) ∧
      (tree.isDirectory target = false → paths = []) := by
  obtain ⟨text, -, searched⟩ := filesOf_text found
  exact Glob.files_spec searched

/-- The search stops at a pattern, or it looks at all files of the pattern and goes on. -/
theorem explore_cons (tree : FileTree) (ignored : IgnoredNames) (target : Path) (pattern : Datum)
    (rest : List Datum) (discovery : Discovery) :
    (∃ fault, explore tree ignored target (pattern :: rest) discovery = (discovery, some fault)) ∨
    ∃ paths, filesOf tree target pattern = .ok paths ∧
      (∀ path ∈ paths, (ignored.ignores? target path).isSome) ∧
      explore tree ignored target (pattern :: rest) discovery =
        explore tree ignored target rest
          (discovery.visitAll (ignored.leavesOut target) paths) := by
  rw [explore]
  cases found : filesOf tree target pattern with
  | error fault => exact .inl ⟨fault, rfl⟩
  | ok paths =>
    by_cases unsaid : paths.any fun path => (ignored.ignores? target path).isNone
    · exact .inl ⟨.unusableIgnored, if_pos unsaid⟩
    · refine .inr ⟨paths, rfl, fun path inside => ?_, if_neg unsaid⟩
      rw [List.any_eq_true] at unsaid
      exact Option.isSome_iff_ne_none.mpr fun none => unsaid ⟨path, inside, by rw [none]; rfl⟩

/-- With patterns that can be read and names that can be compared, the search succeeds. -/
theorem explore_noFault (usable : ignored ≠ .unusable) (patterns : List Datum)
    (accepted : ∀ pattern ∈ patterns, Glob.Accepts pattern) (discovery : Discovery) :
    (explore tree ignored target patterns discovery).2 = none := by
  induction patterns generalizing discovery with
  | nil => rfl
  | cons pattern rest ih =>
    obtain ⟨paths, found⟩ := filesOf_ok tree target (accepted pattern List.mem_cons_self)
    have said : ¬ paths.any fun path => (ignored.ignores? target path).isNone := by
      rw [List.any_eq_true]
      rintro ⟨path, -, none⟩
      rw [← Option.not_isSome, IgnoredNames.ignores?_isSome usable] at none
      cases none
    rw [explore, found]
    dsimp only
    rw [if_neg said]
    exact ih (fun later inside => accepted later (List.mem_cons_of_mem _ inside)) _

/-- Where there is no directory, nothing is found. -/
theorem explore_noDirectory (noDirectory : tree.isDirectory target = false)
    (patterns : List Datum) (discovery : Discovery) :
    (explore tree ignored target patterns discovery).1 = discovery := by
  induction patterns with
  | nil => rfl
  | cons pattern rest ih =>
    rcases explore_cons tree ignored target pattern rest discovery with
      ⟨fault, stopped⟩ | ⟨paths, found, -, next⟩
    · rw [stopped]
    · rw [next, (filesOf_spec found).2 noDirectory]
      exact ih

/-- Where there is no directory, at most the target itself is found. -/
theorem ofTarget_noDirectory (settings : Settings) (noDirectory : tree.isDirectory target = false) :
    (ofTarget tree settings target).1 = { seen := [target], found := [target] } ∨
      (ofTarget tree settings target).1 = {} := by
  unfold ofTarget
  split
  · exact .inl rfl
  · dsimp only
    split
    · exact .inr (explore_noDirectory noDirectory _ _)
    · exact .inr rfl

/-- **What a search has seen are files**, and it has found those that are not ignored. -/
structure Sound (tree : FileTree) (ignored : IgnoredNames) (target : Path)
    (discovery : Discovery) : Prop where
  files : ∀ path ∈ discovery.seen,
    (tree.isFile path ∧ target.Below path) ∧ (ignored.ignores? target path).isSome
  found : ∀ path, path ∈ discovery.found ↔
    path ∈ discovery.seen ∧ ignored.leavesOut target path = false

theorem Sound.visitAll {discovery : Discovery} (sound : Sound tree ignored target discovery)
    {paths : List Path} (files : ∀ path ∈ paths, tree.isFile path ∧ target.Below path)
    (said : ∀ path ∈ paths, (ignored.ignores? target path).isSome) :
    Sound tree ignored target (discovery.visitAll (ignored.leavesOut target) paths) where
  files path inside := by
    rcases (visitAll_seen _ _ _ _).mp inside with earlier | offered
    · exact sound.files path earlier
    · exact ⟨files path offered, said path offered⟩
  found := visitAll_found _ discovery paths sound.found

theorem explore_sound (patterns : List Datum) (discovery : Discovery)
    (sound : Sound tree ignored target discovery) :
    Sound tree ignored target (explore tree ignored target patterns discovery).1 := by
  induction patterns generalizing discovery with
  | nil => exact sound
  | cons pattern rest ih =>
    rcases explore_cons tree ignored target pattern rest discovery with
      ⟨fault, stopped⟩ | ⟨paths, found, said, next⟩
    · rw [stopped]
      exact sound
    · rw [next]
      exact ih _ (sound.visitAll (filesOf_spec found).1 said)

theorem ofTarget_sound (tree : FileTree) (settings : Settings) (target : Path) :
    Sound tree settings.ignored target (ofTarget tree settings target).1 := by
  have empty : Sound tree settings.ignored target {} :=
    ⟨fun path inside => absurd inside List.not_mem_nil, fun path => by simp⟩
  have kept := settings.ignored.ignores?_target target
  unfold ofTarget
  split
  · next file =>
    refine ⟨fun path inside => ?_, fun path => ?_⟩
    · obtain rfl := List.mem_singleton.mp inside
      exact ⟨⟨file, .refl path⟩, by rw [kept]; rfl⟩
    · refine ⟨fun inside => ⟨inside, ?_⟩, And.left⟩
      obtain rfl := List.mem_singleton.mp inside
      rw [IgnoredNames.leavesOut, kept, Option.getD_some]
  · dsimp only
    split
    · exact explore_sound _ _ empty
    · exact empty

/-- **Only files below the target that are not ignored are found.** -/
theorem ofTarget_found {settings : Settings} {path : Path}
    (found : path ∈ (ofTarget tree settings target).1.found) :
    tree.isFile path ∧ target.Below path ∧
      settings.ignored.ignores? target path = some false := by
  have sound := ofTarget_sound tree settings target
  obtain ⟨seen, kept⟩ := (sound.found path).mp found
  obtain ⟨⟨file, below⟩, said⟩ := sound.files path seen
  obtain ⟨verdict, same⟩ := Option.isSome_iff_exists.mp said
  rw [IgnoredNames.leavesOut, same, Option.getD_some] at kept
  exact ⟨file, below, kept ▸ same⟩

theorem ofTarget_noFault {settings : Settings} (accepted : settings.Accepted)
    (usable : settings.ignored ≠ .unusable) : (ofTarget tree settings target).2 = none := by
  obtain ⟨patterns, items, readable⟩ := accepted
  unfold Settings.patterns? at items
  unfold ofTarget
  split
  · rfl
  · dsimp only
    rw [items]
    exact explore_noFault usable patterns readable _

end OneSearch

/-! ## Two searches -/

/-- Two searches that have seen and found the same, apart from what is left out. -/
structure Alike (keep : Path → Bool) (first second : Discovery) : Prop where
  seen : first.seen.filter keep = second.seen.filter keep
  found : first.found.filter keep = second.found.filter keep

section TwoSearches

variable {keep ignores : Path → Bool} {first second : Discovery}

theorem Alike.visit (alike : Alike keep first second) {path : Path} (kept : keep path) :
    Alike keep (first.visit ignores path) (second.visit ignores path) := by
  have member : path ∈ first.seen ↔ path ∈ second.seen := by
    have same : path ∈ first.seen.filter keep ↔ path ∈ second.seen.filter keep := by
      rw [alike.seen]
    simpa [List.mem_filter, kept] using same
  unfold Discovery.visit
  by_cases present : path ∈ second.seen
  · rw [if_pos present, if_pos (member.mpr present)]
    exact alike
  · rw [if_neg present, if_neg ((not_congr member).mpr present)]
    split
    · exact ⟨by simp only [List.filter_append, alike.seen], alike.found⟩
    · exact ⟨by simp only [List.filter_append, alike.seen],
        by simp only [List.filter_append, alike.found]⟩

/-- A path that is left out makes no difference. -/
theorem Alike.visit_left (alike : Alike keep first second) {path : Path} (passed : ¬ keep path) :
    Alike keep (first.visit ignores path) second := by
  unfold Discovery.visit
  split
  · exact alike
  · split
    · exact ⟨by simp [List.filter_append, passed, alike.seen], alike.found⟩
    · exact ⟨by simp [List.filter_append, passed, alike.seen],
        by simp [List.filter_append, passed, alike.found]⟩

theorem Alike.symm (alike : Alike keep first second) : Alike keep second first :=
  ⟨alike.seen.symm, alike.found.symm⟩

/-- The paths that are left out need not be looked at. -/
theorem Alike.visitAll_filter (alike : Alike keep first second) (ignores : Path → Bool)
    (paths : List Path) :
    Alike keep (first.visitAll ignores paths) (second.visitAll ignores (paths.filter keep)) := by
  induction paths generalizing first second with
  | nil => exact alike
  | cons path rest ih =>
    by_cases kept : keep path
    · rw [List.filter_cons_of_pos kept]
      exact ih (alike.visit kept)
    · rw [List.filter_cons_of_neg kept]
      exact ih (alike.visit_left kept)

theorem Alike.visitAll (alike : Alike keep first second) {paths others : List Path}
    (same : paths.filter keep = others.filter keep) :
    Alike keep (first.visitAll ignores paths) (second.visitAll ignores others) := by
  have left := alike.visitAll_filter ignores paths
  have right := (Alike.mk rfl rfl : Alike keep second second).visitAll_filter ignores others
  rw [same] at left
  exact ⟨left.seen.trans right.seen.symm, left.found.trans right.found.symm⟩

end TwoSearches

section TwoTrees

variable {place : List String} {first second : FileTree} {ignored : IgnoredNames} {target : Path}

theorem filesOf_filter (differ : FileTree.DifferAt place first second) {pattern : Datum}
    {paths others : List Path} (inFirst : filesOf first target pattern = .ok paths)
    (inSecond : filesOf second target pattern = .ok others) :
    (paths.filter fun path => !first.leadsTo place path) =
      others.filter fun path => !first.leadsTo place path := by
  obtain ⟨text, rfl, searched⟩ := filesOf_text inFirst
  obtain ⟨same, equal, otherSearched⟩ := filesOf_text inSecond
  cases equal
  have filtered := Glob.files_filter differ target text
  rw [searched, otherSearched] at filtered
  exact Except.ok.inj filtered

/-- Both trees are searched with the same result, the changed file apart. -/
theorem explore_alike (differ : FileTree.DifferAt place first second) (patterns : List Datum)
    {found others : Discovery}
    (alike : Alike (fun path => !first.leadsTo place path) found others)
    (inFirst : (explore first ignored target patterns found).2 = none)
    (inSecond : (explore second ignored target patterns others).2 = none) :
    Alike (fun path => !first.leadsTo place path)
      (explore first ignored target patterns found).1
      (explore second ignored target patterns others).1 := by
  induction patterns generalizing found others with
  | nil => exact alike
  | cons pattern rest ih =>
    rcases explore_cons first ignored target pattern rest found with
      ⟨fault, stopped⟩ | ⟨paths, listed, -, next⟩
    · rw [stopped] at inFirst
      cases inFirst
    rcases explore_cons second ignored target pattern rest others with
      ⟨fault, stopped⟩ | ⟨otherPaths, otherListed, -, otherNext⟩
    · rw [stopped] at inSecond
      cases inSecond
    rw [next] at inFirst ⊢
    rw [otherNext] at inSecond ⊢
    exact ih (alike.visitAll (filesOf_filter differ listed otherListed)) inFirst inSecond

/-- **The search after a change.** If one file was added, changed or taken away, the same other
files are found in the same order. -/
theorem ofTarget_alike (differ : FileTree.DifferAt place first second) (settings : Settings)
    (inFirst : (ofTarget first settings target).2 = none)
    (inSecond : (ofTarget second settings target).2 = none) :
    Alike (fun path => !first.leadsTo place path) (ofTarget first settings target).1
      (ofTarget second settings target).1 := by
  by_cases there : first.leadsTo place target
  · -- The target is the changed file, so that each tree has at most this file.
    have dropped {tree : FileTree} (noDirectory : tree.isDirectory target = false) :
        Alike (fun path => !first.leadsTo place path) (ofTarget tree settings target).1 {} := by
      rcases ofTarget_noDirectory settings noDirectory with same | same
      · rw [same]
        exact ⟨by simp [there], by simp [there]⟩
      · rw [same]
        exact ⟨rfl, rfl⟩
    have noDirectory := differ.leadsTo_noDirectory there
    have left := dropped noDirectory
    have right := dropped ((differ.isDirectory_eq target).symm.trans noDirectory)
    exact ⟨left.seen.trans right.seen.symm, left.found.trans right.found.symm⟩
  · unfold ofTarget at inFirst inSecond ⊢
    rw [← differ.isFile_eq (Bool.eq_false_iff.mpr there)] at inSecond ⊢
    split
    · exact ⟨rfl, rfl⟩
    · next noFile =>
      rw [if_neg noFile] at inFirst inSecond
      dsimp only at inFirst inSecond ⊢
      split
      · next patterns items =>
        rw [items] at inFirst inSecond
        exact explore_alike differ patterns ⟨rfl, rfl⟩ inFirst inSecond
      · exact ⟨rfl, rfl⟩

end TwoTrees

end Discovery

end RouteTable
