/-
**Changing one file.**

Two trees of files may differ in one file: it is added, it has another content, or it is taken away.
Every path that does not lead to the place of that file leads to the same entry in both trees, and
the directories are the same.

* `DifferAt`: two trees that differ in the file at one place;
* `write_differAt`, `remove_differAt`: writing a file and taking it away;
* `locate_sameDirectories`: names lead to the same place where the directories are the same;
* `locate_eq`, `find_eq`, `isDirectory_eq`: what paths lead to in both trees;
* `children_eq`, `directoryCount_eq`: the names in a directory, and how many directories there are.
-/

import RouteTable.FileTree
import RouteTable.Proofs.Assoc

namespace RouteTable

namespace FileTree

/-- **Two trees that differ in one file.** At the place, each tree has a file or nothing; everywhere
else the trees are the same. -/
structure DifferAt (place : List String) (first second : FileTree) : Prop where
  base : first.base = second.base
  named : ∃ directory name, place = directory ++ [name] ∧ name ≠ "." ∧ name ≠ ".."
  others : (first.entries.filter fun entry => entry.1 ≠ place) =
    second.entries.filter fun entry => entry.1 ≠ place
  first_noDirectory : (place, .directory) ∉ first.entries
  second_noDirectory : (place, .directory) ∉ second.entries

/-- Whether a path leads to a place. -/
def leadsTo (tree : FileTree) (place : List String) (path : Path) : Bool :=
  (tree.locate (tree.start path) path.names).toOption = some place

/-- A step from a place succeeds exactly from a directory and by a name without a null character. -/
theorem step_toOption (tree : FileTree) (here : List String) (name : String) :
    (tree.step here name).toOption =
      if tree.entryAt here = some .directory ∧ hasNull name = false then
        some (if name = "." then here else if name = ".." then here.dropLast else here ++ [name])
      else none := by
  unfold step
  cases entry : tree.entryAt here with
  | none => rfl
  | some found =>
    cases found with
    | file content => rfl
    | directory =>
      cases hasNull name with
      | true => rfl
      | false =>
        have ready : some Entry.directory = some .directory ∧ false = false := ⟨rfl, rfl⟩
        rw [if_pos ready]
        dsimp only
        rw [if_neg Bool.false_ne_true]
        split
        · rfl
        · split <;> rfl

theorem locate_toOption_cons (tree : FileTree) (here : List String) (name : String)
    (rest : List String) : (tree.locate here (name :: rest)).toOption =
      (tree.step here name).toOption.bind fun next => (tree.locate next rest).toOption := by
  unfold locate
  rw [List.any_cons]
  cases null : hasNull name with
  | true =>
    have refused : (tree.step here name).toOption = none := by simp [step_toOption, null]
    rw [refused]
    rfl
  | false =>
    rw [Bool.false_or]
    split
    · cases (tree.step here name).toOption <;> rfl
    · show (tree.step here name >>= fun next => rest.foldlM tree.step next).toOption = _
      cases tree.step here name <;> rfl

theorem locate_toOption_append (tree : FileTree) (here names : List String) (name : String) :
    (tree.locate here (names ++ [name])).toOption =
      (tree.locate here names).toOption.bind fun last => (tree.step last name).toOption := by
  induction names generalizing here with
  | nil =>
    rw [List.nil_append, locate_toOption_cons]
    show (tree.step here name).toOption.bind some = (tree.step here name).toOption
    cases (tree.step here name).toOption <;> rfl
  | cons head rest ih =>
    rw [List.cons_append, locate_toOption_cons, locate_toOption_cons]
    cases (tree.step here head).toOption with
    | none => rfl
    | some next => exact ih next

/-- Two trees with the same directories. -/
def SameDirectories (first second : FileTree) : Prop :=
  ∀ place, first.entryAt place = some .directory ↔ second.entryAt place = some .directory

/-- Names lead to the same place in two trees with the same directories. -/
theorem locate_sameDirectories {first second : FileTree} (same : SameDirectories first second)
    (here names : List String) :
    (first.locate here names).toOption = (second.locate here names).toOption := by
  induction names generalizing here with
  | nil => rfl
  | cons name rest ih =>
    rw [locate_toOption_cons, locate_toOption_cons, step_toOption, step_toOption]
    simp only [same here, ih]

theorem entryOf_toOption (tree : FileTree) (here : List String) :
    (tree.entryOf here).toOption = tree.entryAt here := by
  unfold entryOf
  cases tree.entryAt here <;> rfl

/-- The entry that a path leads to is the one at the place where it ends. -/
theorem find_toOption (tree : FileTree) (path : Path) : (tree.find path).toOption =
    (tree.locate (tree.start path) path.names).toOption.bind tree.entryAt := by
  show (tree.locate (tree.start path) path.names >>= tree.entryOf).toOption = _
  cases tree.locate (tree.start path) path.names with
  | error fault => rfl
  | ok here => exact tree.entryOf_toOption here

theorem isFile_iff (tree : FileTree) (path : Path) :
    tree.isFile path ↔ ∃ content, (tree.find path).toOption = some (.file content) := by
  unfold isFile
  cases tree.find path with
  | error fault => simp [Except.toOption]
  | ok entry => cases entry <;> simp [Except.toOption]

theorem isDirectory_iff (tree : FileTree) (path : Path) :
    tree.isDirectory path ↔ (tree.find path).toOption = some .directory := by
  unfold isDirectory
  cases tree.find path with
  | error fault => simp [Except.toOption]
  | ok entry => cases entry <;> simp [Except.toOption]

/-- The name under which an entry is listed in a directory. -/
def childIn? (directory : List String) (entry : List String × Entry) : Option (String × Entry) :=
  match entry.1.getLast? with
  | some name => if entry.1.dropLast = directory then some (name, entry.2) else none
  | none => none

theorem childIn?_eq_some_iff {directory : List String} {entry : List String × Entry}
    {child : String × Entry} :
    childIn? directory entry = some child ↔ entry = (directory ++ [child.1], child.2) := by
  obtain ⟨names, content⟩ := entry
  obtain ⟨name, found⟩ := child
  unfold childIn?
  rcases List.eq_nil_or_concat names with rfl | ⟨above, last, rfl⟩
  · simp
  · by_cases same : above = directory <;> simp [same]

theorem children_eq (tree : FileTree) (directory : List String) :
    tree.children directory = tree.entries.filterMap (childIn? directory) := rfl

/-- Entries that no kept child comes from can be left out before a directory is listed. -/
theorem children_filter (tree : FileTree) (directory : List String) (keep : String × Entry → Bool)
    (good : List String × Entry → Bool)
    (kept : ∀ child, (directory ++ [child.1], child.2) ∈ tree.entries → keep child →
      good (directory ++ [child.1], child.2)) :
    (tree.children directory).filter keep =
      ((tree.entries.filter good).filterMap (childIn? directory)).filter keep := by
  rw [children_eq]
  generalize tree.entries = entries at kept
  induction entries with
  | nil => rfl
  | cons entry rest ih =>
    have later := ih fun child inside => kept child (List.mem_cons_of_mem _ inside)
    by_cases wanted : good entry
    · rw [List.filter_cons_of_pos wanted, List.filterMap_cons, List.filterMap_cons]
      cases childIn? directory entry with
      | none => exact later
      | some child => rw [List.filter_cons, List.filter_cons, later]
    · rw [List.filter_cons_of_neg wanted, List.filterMap_cons]
      cases listed : childIn? directory entry with
      | none => exact later
      | some child =>
        have place := childIn?_eq_some_iff.mp listed
        have dropped : ¬ keep child := fun held =>
          wanted (place ▸ kept child (place ▸ List.mem_cons_self) held)
        rw [List.filter_cons_of_neg dropped, later]

namespace DifferAt

variable {place : List String} {first second : FileTree}

theorem symm (differ : DifferAt place first second) : DifferAt place second first :=
  ⟨differ.base.symm, differ.named, differ.others.symm, differ.second_noDirectory,
    differ.first_noDirectory⟩

theorem entryAt_other (differ : DifferAt place first second) {wanted : List String}
    (other : wanted ≠ place) : first.entryAt wanted = second.entryAt wanted := by
  cases wanted with
  | nil => rfl
  | cons head rest =>
    show first.entries.get? _ = second.entries.get? _
    rw [← Assoc.get?_filter_ne first.entries other, differ.others,
      Assoc.get?_filter_ne second.entries other]

/-- There is no directory at the place. -/
theorem entryAt_place (differ : DifferAt place first second) :
    first.entryAt place ≠ some .directory := by
  obtain ⟨directory, name, rfl, -, -⟩ := differ.named
  intro found
  have listed : first.entries.get? (directory ++ [name]) = some .directory := by
    cases directory <;> exact found
  exact differ.first_noDirectory (Assoc.mem_of_get? listed)

theorem entryAt_directory_iff (differ : DifferAt place first second) (wanted : List String) :
    first.entryAt wanted = some .directory ↔ second.entryAt wanted = some .directory := by
  by_cases same : wanted = place
  · subst same
    exact ⟨fun found => absurd found differ.entryAt_place,
      fun found => absurd found differ.symm.entryAt_place⟩
  · rw [differ.entryAt_other same]

theorem locate_eq (differ : DifferAt place first second) (here names : List String) :
    (first.locate here names).toOption = (second.locate here names).toOption :=
  locate_sameDirectories differ.entryAt_directory_iff here names

theorem start_eq (differ : DifferAt place first second) (path : Path) :
    first.start path = second.start path := by
  rw [start, start, differ.base]

/-- A path leads to the same place in both trees. -/
theorem leadsTo_eq (differ : DifferAt place first second) (wanted : List String) (path : Path) :
    first.leadsTo wanted path = second.leadsTo wanted path := by
  rw [leadsTo, leadsTo, differ.start_eq, differ.locate_eq]

/-- A path to another place leads to the same entry in both trees. -/
theorem find_eq (differ : DifferAt place first second) {path : Path}
    (other : first.leadsTo place path = false) :
    (first.find path).toOption = (second.find path).toOption := by
  rw [find_toOption, find_toOption, ← differ.start_eq, ← differ.locate_eq]
  cases ended : (first.locate (first.start path) path.names).toOption with
  | none => rfl
  | some here =>
    refine differ.entryAt_other fun same => ?_
    simp [leadsTo, ended, same] at other

/-- A path leads to a directory in both trees or in none. -/
theorem isDirectory_eq (differ : DifferAt place first second) (path : Path) :
    first.isDirectory path = second.isDirectory path := by
  rw [Bool.eq_iff_iff, isDirectory_iff, isDirectory_iff, find_toOption, find_toOption,
    ← differ.start_eq, ← differ.locate_eq]
  cases (first.locate (first.start path) path.names).toOption with
  | none => exact Iff.rfl
  | some here => exact differ.entryAt_directory_iff here

/-- A path to the changed file does not lead to a directory. -/
theorem leadsTo_noDirectory (differ : DifferAt place first second) {path : Path}
    (there : first.leadsTo place path) : first.isDirectory path = false := by
  rw [Bool.eq_false_iff, ne_eq, isDirectory_iff, find_toOption, of_decide_eq_true there]
  exact differ.entryAt_place

theorem isFile_eq (differ : DifferAt place first second) {path : Path}
    (other : first.leadsTo place path = false) : first.isFile path = second.isFile path := by
  rw [Bool.eq_iff_iff, isFile_iff, isFile_iff, differ.find_eq other]

/-- A directory lists the same names in both trees, the file at the place apart. -/
theorem children_eq (differ : DifferAt place first second) (directory : List String)
    (keep : String × Entry → Bool)
    (passed : ∀ child, child.2 ≠ .directory → keep child → directory ++ [child.1] ≠ place) :
    (first.children directory).filter keep = (second.children directory).filter keep := by
  have away {tree : FileTree} (noDirectory : (place, .directory) ∉ tree.entries)
      (child : String × Entry) (listed : (directory ++ [child.1], child.2) ∈ tree.entries)
      (held : keep child) :
      decide (directory ++ [child.1] ≠ place) = true := by
    refine decide_eq_true fun same => ?_
    by_cases kind : child.2 = .directory
    · rw [same, kind] at listed
      exact noDirectory listed
    · exact passed child kind held same
  rw [children_filter first directory keep (fun entry => entry.1 ≠ place)
      (away differ.first_noDirectory),
    children_filter second directory keep (fun entry => entry.1 ≠ place)
      (away differ.second_noDirectory), differ.others]

theorem directoryCount_eq (differ : DifferAt place first second) :
    first.directoryCount = second.directoryCount := by
  have counted {tree : FileTree} (noDirectory : (place, .directory) ∉ tree.entries) :
      tree.directoryCount =
        (tree.entries.filter fun entry => entry.1 ≠ place).countP fun entry =>
          entry.2 = .directory := by
    rw [directoryCount, List.countP_filter]
    refine List.countP_congr fun entry inside => ?_
    obtain ⟨names, content⟩ := entry
    simp only [decide_eq_true_eq, Bool.and_eq_true]
    constructor
    · rintro rfl
      exact ⟨rfl, fun same => noDirectory (same ▸ inside)⟩
    · exact And.left
  rw [counted differ.first_noDirectory, counted differ.second_noDirectory, differ.others]

end DifferAt

/-! ## Writing and removing a file -/

section Steps

variable {tree : FileTree} {directory : List String} {name : String}

/-- Where the directories on the way to a place are there, none is made. -/
theorem withParents_eq {names : List String}
    (parents : ∀ count < names.length, tree.entryAt (names.take count) = some .directory) :
    tree.withParents names = tree := by
  have kept (counts : List Nat) (below : ∀ count ∈ counts, count < names.length) :
      counts.foldl (fun tree count =>
        let names := names.take count
        if tree.entryAt names = some .directory then tree else tree.put names .directory) tree =
        tree := by
    induction counts with
    | nil => rfl
    | cons count rest ih =>
      rw [List.foldl_cons]
      dsimp only
      rw [if_pos (parents count (below count List.mem_cons_self))]
      exact ih fun later inside => below later (List.mem_cons_of_mem _ inside)
  exact kept _ fun count inside => List.mem_range.mp inside

/-- Writing a file into a directory that is there changes that file only. -/
theorem write_differAt (content : ByteArray) (named : name ≠ "." ∧ name ≠ "..")
    (noDirectory : (directory ++ [name], .directory) ∉ tree.entries)
    (parents : ∀ count < (directory ++ [name]).length,
      tree.entryAt ((directory ++ [name]).take count) = some .directory) :
    DifferAt (directory ++ [name]) tree (tree.write (directory ++ [name]) (.file content)) := by
  rw [write, withParents_eq parents]
  refine ⟨rfl, ⟨directory, name, rfl, named⟩, (Assoc.filter_put_ne _ _ _).symm, noDirectory, ?_⟩
  intro listed
  rcases Assoc.mem_of_mem_put listed with same | old
  · cases (Prod.mk.inj same).2
  · exact noDirectory old

/-- Taking away a file with nothing below it changes that file only. -/
theorem remove_differAt (named : name ≠ "." ∧ name ≠ "..")
    (noDirectory : (directory ++ [name], .directory) ∉ tree.entries)
    (last : ∀ entry ∈ tree.entries, (directory ++ [name]).isPrefixOf entry.1 →
      entry.1 = directory ++ [name]) :
    DifferAt (directory ++ [name]) tree (tree.remove (directory ++ [name])) where
  base := rfl
  named := ⟨directory, name, rfl, named⟩
  others := by
    show _ = (tree.entries.filter _).filter _
    rw [List.filter_filter]
    refine List.filter_congr fun entry inside => ?_
    by_cases below : (directory ++ [name]).isPrefixOf entry.1
    · simp [last entry inside below]
    · simp [below]
  first_noDirectory := noDirectory
  second_noDirectory listed := noDirectory (List.mem_filter.mp listed).1

end Steps

end FileTree

end RouteTable
