/-
**What a search lists.**

A search goes through the patterns in order and looks at every file of a pattern once. So it lists
the files that some pattern stands for, without repetition, first by the pattern that finds them
first and then by their names; and it counts the ignored ones among them.

* `Glob.StandsFor`, `Discovery.Matches`: what one pattern stands for;
* `Discovery.mem_filesOf`, `Discovery.filesOf_sorted`: the files of one pattern;
* `Discovery.Tidy`: the files that were seen are told apart, each once;
* `Discovery.ListedBefore`: the order of the files;
* `Discovery.Listing`, `Discovery.ofTarget_listing`: what a whole search has seen.
-/

import Mathlib.Data.Nat.Find
import RouteTable.Proofs.Files.Discovery

namespace RouteTable

/-- A directory is no file. -/
theorem FileTree.isFile_eq_false {tree : FileTree} {path : Path}
    (directory : tree.isDirectory path) : tree.isFile path = false := by
  rw [isDirectory_iff] at directory
  rw [Bool.eq_false_iff, ne_eq, isFile_iff, directory]
  rintro ⟨content, same⟩
  cases same

/-! ## One pattern -/

/-- A pattern stands for the paths that its parts select under a directory; with a slash at its end,
for directories alone. -/
def Glob.StandsFor (tree : FileTree) (target : Path) (pattern : String) (path : Path) : Prop :=
  ∃ parts directories, partsOf pattern = .ok (parts, directories) ∧ tree.isDirectory target ∧
    path ∈ select tree parts target ∧ (directories → tree.isDirectory path)

namespace Glob

variable {tree : FileTree} {target : Path} {pattern : String} {paths : List Path}

/-- The files of a pattern are the files among the paths that it stands for. -/
theorem mem_files (found : files tree target pattern = .ok paths) (path : Path) :
    path ∈ paths ↔ tree.isFile path ∧ StandsFor tree target pattern path := by
  unfold files at found
  unfold StandsFor
  cases read : partsOf pattern with
  | error fault =>
    rw [read] at found
    cases found
  | ok both =>
    obtain ⟨parts, directories⟩ := both
    rw [read] at found
    change (ite _ _ _ : Except Fault (List Path)) = .ok paths at found
    split at found
    · next nothing =>
      cases found
      refine ⟨fun inside => absurd inside List.not_mem_nil, ?_⟩
      rintro ⟨file, _, _, same, directory, -, only⟩
      cases same
      rcases nothing with asked | missing
      · rw [FileTree.isFile_eq_false (only asked)] at file
        cases file
      · rw [directory] at missing
        cases missing
    · next usable =>
      cases found
      simp only [not_or, Bool.not_eq_true, Bool.not_eq_false'] at usable
      rw [List.mem_mergeSort, List.mem_filter]
      constructor
      · rintro ⟨selected, file⟩
        exact ⟨file, parts, directories, rfl, usable.2, selected,
          fun asked => absurd asked (by simp [usable.1])⟩
      · rintro ⟨file, _, _, same, -, selected, -⟩
        cases same
        exact ⟨selected, file⟩

theorem files_sorted (found : files tree target pattern = .ok paths) :
    paths.Pairwise fun first second => Path.precedes first.names second.names := by
  unfold files at found
  cases read : partsOf pattern with
  | error fault =>
    rw [read] at found
    cases found
  | ok both =>
    obtain ⟨parts, directories⟩ := both
    rw [read] at found
    change (ite _ _ _ : Except Fault (List Path)) = .ok paths at found
    split at found
    · cases found
      exact .nil
    · cases found
      exact List.pairwise_mergeSort Path.byNames_trans Path.byNames_total _

end Glob

namespace Discovery

variable {tree : FileTree} {ignored : IgnoredNames} {target path : Path}

/-- A setting stands for a path if it is a pattern that does. -/
def Matches (tree : FileTree) (target : Path) (pattern : Datum) (path : Path) : Prop :=
  ∃ text, pattern = .text text ∧ Glob.StandsFor tree target text path

theorem mem_filesOf {pattern : Datum} {paths : List Path}
    (found : filesOf tree target pattern = .ok paths) (path : Path) :
    path ∈ paths ↔ tree.isFile path ∧ Matches tree target pattern path := by
  obtain ⟨text, rfl, searched⟩ := filesOf_text found
  rw [Glob.mem_files searched]
  refine and_congr_right fun _ => ⟨fun stands => ⟨text, rfl, stands⟩, ?_⟩
  rintro ⟨_, same, stands⟩
  cases same
  exact stands

theorem filesOf_sorted {pattern : Datum} {paths : List Path}
    (found : filesOf tree target pattern = .ok paths) :
    paths.Pairwise fun first second => Path.precedes first.names second.names := by
  obtain ⟨text, -, searched⟩ := filesOf_text found
  exact Glob.files_sorted searched

/-! ## Looking at files -/

section Visits

variable {ignores : Path → Bool} {discovery : Discovery}

/-- The files that were seen are distinct, the kept ones are found in the same order, and the others
are counted. -/
structure Tidy (ignores : Path → Bool) (discovery : Discovery) : Prop where
  distinct : discovery.seen.Nodup
  found : discovery.found = discovery.seen.filter fun path => !ignores path
  skipped : discovery.skipped = discovery.seen.countP ignores

theorem Tidy.visit (tidy : Tidy ignores discovery) (path : Path) :
    Tidy ignores (discovery.visit ignores path) := by
  unfold Discovery.visit
  by_cases present : path ∈ discovery.seen
  · rw [if_pos present]
    exact tidy
  · have distinct : (discovery.seen ++ [path]).Nodup := by
      refine List.nodup_append.mpr ⟨tidy.distinct, by simp, fun other inside new listed same => ?_⟩
      rw [List.mem_singleton.mp listed] at same
      exact present (same ▸ inside)
    rw [if_neg present]
    by_cases out : ignores path
    · rw [if_pos out]
      exact ⟨distinct, by simp [tidy.found, List.filter_append, out],
        by simp [tidy.skipped, List.countP_append, out]⟩
    · rw [if_neg out]
      exact ⟨distinct, by simp [tidy.found, List.filter_append, out],
        by simp [tidy.skipped, List.countP_append, out]⟩

theorem Tidy.visitAll (tidy : Tidy ignores discovery) (paths : List Path) :
    Tidy ignores (discovery.visitAll ignores paths) := by
  induction paths generalizing discovery with
  | nil => exact tidy
  | cons path rest ih => exact ih (tidy.visit path)

/-- Looking at files adds the new ones among them in their order. -/
theorem visitAll_added (ignores : Path → Bool) (discovery : Discovery) (paths : List Path) :
    ∃ added, (discovery.visitAll ignores paths).seen = discovery.seen ++ added ∧
      added.Sublist paths ∧ ∀ path ∈ added, path ∉ discovery.seen := by
  induction paths generalizing discovery with
  | nil => exact ⟨[], (List.append_nil _).symm, .slnil, fun path inside => nomatch inside⟩
  | cons path rest ih =>
    obtain ⟨added, seen, sublist, new⟩ := ih (discovery.visit ignores path)
    have next : (discovery.visitAll ignores (path :: rest)).seen =
        (discovery.visit ignores path).seen ++ added := seen
    by_cases present : path ∈ discovery.seen
    · rw [Discovery.visit, if_pos present] at next new
      exact ⟨added, next, sublist.cons path, new⟩
    · have grown : (discovery.visit ignores path).seen = discovery.seen ++ [path] := by
        rw [Discovery.visit, if_neg present]
        split <;> rfl
      rw [grown] at next new
      refine ⟨path :: added, by rw [next, List.append_assoc, List.singleton_append],
        sublist.cons_cons path, ?_⟩
      intro other inside
      rcases List.mem_cons.mp inside with rfl | later
      · exact present
      · exact fun old => new other later (List.mem_append_left _ old)

end Visits

/-! ## The order of the files -/

/-- The first of the patterns that stand for a path is the one at an index. -/
def FirstAt (tree : FileTree) (target : Path) (patterns : List Datum) (index : Nat) (path : Path) :
    Prop :=
  (∃ pattern, patterns[index]? = some pattern ∧ Matches tree target pattern path) ∧
    ∀ earlier < index, ∀ pattern, patterns[earlier]? = some pattern →
      ¬ Matches tree target pattern path

/-- A file is listed before another one if a pattern finds it earlier, or if the same pattern finds
both first and its names come first. -/
def ListedBefore (tree : FileTree) (target : Path) (patterns : List Datum) (first second : Path) :
    Prop :=
  ∃ index other, FirstAt tree target patterns index first ∧
    FirstAt tree target patterns other second ∧
    (index < other ∨ index = other ∧ Path.precedes first.names second.names)

theorem FirstAt.append {patterns : List Datum} {index : Nat}
    (first : FirstAt tree target patterns index path) (more : List Datum) :
    FirstAt tree target (patterns ++ more) index path := by
  obtain ⟨⟨pattern, at?, stands⟩, earliest⟩ := first
  have short : index < patterns.length := (List.getElem?_eq_some_iff.mp at?).1
  refine ⟨⟨pattern, by rw [List.getElem?_append_left short, at?], stands⟩, ?_⟩
  intro earlier below other found
  rw [List.getElem?_append_left (Nat.lt_trans below short)] at found
  exact earliest earlier below other found

theorem ListedBefore.append {patterns : List Datum} {first second : Path}
    (before : ListedBefore tree target patterns first second) (more : List Datum) :
    ListedBefore tree target (patterns ++ more) first second := by
  obtain ⟨index, other, left, right, order⟩ := before
  exact ⟨index, other, left.append more, right.append more, order⟩

/-- A path that some pattern stands for has a first one. -/
theorem exists_firstAt {patterns : List Datum}
    (matched : ∃ pattern ∈ patterns, Matches tree target pattern path) :
    ∃ index < patterns.length, FirstAt tree target patterns index path := by
  classical
  have some? : ∃ index : Nat, ∃ pattern, patterns[index]? = some pattern ∧
      Matches tree target pattern path := by
    obtain ⟨pattern, inside, stands⟩ := matched
    obtain ⟨index, at?⟩ := List.mem_iff_getElem?.mp inside
    exact ⟨index, pattern, at?, stands⟩
  obtain ⟨pattern, at?, stands⟩ := Nat.find_spec some?
  refine ⟨Nat.find some?, (List.getElem?_eq_some_iff.mp at?).1, ⟨pattern, at?, stands⟩, ?_⟩
  exact fun earlier below other at? stands => Nat.find_min some? below ⟨other, at?, stands⟩

/-- A path that no pattern stands for, but the next one, has this one as its first. -/
theorem firstAt_last {patterns : List Datum} {pattern : Datum}
    (unmatched : ¬ ∃ earlier ∈ patterns, Matches tree target earlier path)
    (stands : Matches tree target pattern path) :
    FirstAt tree target (patterns ++ [pattern]) patterns.length path := by
  refine ⟨⟨pattern, List.getElem?_concat_length, stands⟩, fun earlier below other at? there => ?_⟩
  rw [List.getElem?_append_left below] at at?
  exact unmatched ⟨other, List.mem_of_getElem? at?, there⟩

/-! ## Whole searches -/

/-- **What a search has seen** after some patterns: the files that one of them stands for, in
order. -/
structure Listing (tree : FileTree) (ignored : IgnoredNames) (target : Path)
    (patterns : List Datum) (discovery : Discovery) : Prop
    extends Tidy (ignored.leavesOut target) discovery where
  seen : ∀ path, path ∈ discovery.seen ↔
    tree.isFile path ∧ ∃ pattern ∈ patterns, Matches tree target pattern path
  ordered : discovery.seen.Pairwise (ListedBefore tree target patterns)

theorem listing_empty : Listing tree ignored target [] {} :=
  ⟨⟨.nil, rfl, rfl⟩, fun path => by simp, .nil⟩

/-- One pattern more. -/
theorem Listing.visitAll {patterns : List Datum} {pattern : Datum} {paths : List Path}
    {discovery : Discovery} (listing : Listing tree ignored target patterns discovery)
    (found : filesOf tree target pattern = .ok paths) :
    Listing tree ignored target (patterns ++ [pattern])
      (discovery.visitAll (ignored.leavesOut target) paths) := by
  refine ⟨listing.toTidy.visitAll paths, fun path => ?_, ?_⟩
  · rw [visitAll_seen, listing.seen, mem_filesOf found, ← and_or_left]
    simp only [List.mem_append, List.mem_singleton, or_and_right, exists_or, exists_eq_left]
  · obtain ⟨added, seen, sublist, new⟩ := visitAll_added (ignored.leavesOut target) discovery paths
    have last {path : Path} (inside : path ∈ added) :
        FirstAt tree target (patterns ++ [pattern]) patterns.length path := by
      obtain ⟨file, stands⟩ := (mem_filesOf found path).mp (sublist.subset inside)
      refine firstAt_last (fun matched => new path inside ?_) stands
      exact (listing.seen path).mpr ⟨file, matched⟩
    rw [seen, List.pairwise_append]
    refine ⟨listing.ordered.imp fun before => before.append [pattern], ?_, ?_⟩
    · have sorted := (filesOf_sorted found).sublist sublist
      refine sorted.imp_of_mem fun first second before => ?_
      exact ⟨_, _, last first, last second, .inr ⟨rfl, before⟩⟩
    · intro path old other inside
      obtain ⟨index, below, first⟩ := exists_firstAt ((listing.seen path).mp old).2
      exact ⟨index, _, first.append [pattern], last inside, .inl below⟩

theorem explore_listing (rest : List Datum) {patterns : List Datum} {discovery : Discovery}
    (listing : Listing tree ignored target patterns discovery)
    (noFault : (explore tree ignored target rest discovery).2 = none) :
    Listing tree ignored target (patterns ++ rest)
      (explore tree ignored target rest discovery).1 := by
  induction rest generalizing patterns discovery with
  | nil =>
    rw [List.append_nil]
    exact listing
  | cons pattern rest ih =>
    rcases explore_cons tree ignored target pattern rest discovery with
      ⟨fault, stopped⟩ | ⟨paths, found, -, next⟩
    · rw [stopped] at noFault
      cases noFault
    · rw [next] at noFault ⊢
      have listed := ih (listing.visitAll found) noFault
      rwa [List.append_assoc, List.singleton_append] at listed

/-- **A search under a directory** that succeeds has seen the files of all its patterns. -/
theorem ofTarget_listing {settings : Settings} {patterns : List Datum}
    (items : settings.patterns? = some patterns) (directory : tree.isFile target = false)
    (noFault : (ofTarget tree settings target).2 = none) :
    Listing tree settings.ignored target patterns (ofTarget tree settings target).1 := by
  unfold Settings.patterns? at items
  unfold ofTarget at noFault ⊢
  rw [directory, if_neg Bool.false_ne_true] at noFault ⊢
  dsimp only at noFault ⊢
  rw [items] at noFault ⊢
  exact explore_listing patterns listing_empty noFault

end Discovery

end RouteTable
