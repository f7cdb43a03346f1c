/-
**What one pattern finds after a file was changed.**

Two trees that differ in one file give the same files for a pattern, in the same order, that file
apart.

* `filter_mergeSort`, `filter_eraseDups`: leaving elements out commutes with sorting and with
  dropping repetitions;
* `Path.precedes_trans`: the order of paths is transitive;
* `FileTree.DifferAt.flatMap_childrenOf_eq`: what is gathered from the names in a directory;
* `Glob.select_filter`, `Glob.files_filter`: what a pattern finds in both trees.
-/

import RouteTable.Glob
import RouteTable.Proofs.Files.Change

namespace RouteTable

/-! ## Leaving elements out of lists -/

section Lists

variable {α β : Type}

/-- A sorted list with one more element: the smaller ones, the element, and the others. -/
theorem mergeSort_cons_eq {le : α → α → Bool} (trans : ∀ a b c, le a b → le b c → le a c)
    (total : ∀ a b, le a b || le b a) (head : α) (rest : List α) :
    (head :: rest).mergeSort le = ((rest.mergeSort le).filter fun other => !le head other) ++
      head :: (rest.mergeSort le).filter (le head) := by
  obtain ⟨smaller, others, whole, apart, less⟩ := List.mergeSort_cons trans total head rest
  have sorted := List.pairwise_mergeSort trans total (head :: rest)
  rw [whole, List.pairwise_append, List.pairwise_cons] at sorted
  have more : ∀ other ∈ others, le head other = true := sorted.2.1.1
  rw [whole, apart, List.filter_append, List.filter_append,
    List.filter_eq_self.mpr less, List.filter_eq_self.mpr more,
    List.filter_eq_nil_iff.mpr fun other inside => by simp [more other inside],
    List.filter_eq_nil_iff.mpr fun other inside => by simpa using less other inside,
    List.append_nil, List.nil_append]

/-- Sorting and leaving elements out can be done in either order. -/
theorem filter_mergeSort {le : α → α → Bool} (trans : ∀ a b c, le a b → le b c → le a c)
    (total : ∀ a b, le a b || le b a) (keep : α → Bool) (list : List α) :
    (list.mergeSort le).filter keep = (list.filter keep).mergeSort le := by
  have swap (first second : α → Bool) (elements : List α) :
      (elements.filter first).filter second = (elements.filter second).filter first := by
    rw [List.filter_filter, List.filter_filter]
    exact List.filter_congr fun _ _ => Bool.and_comm _ _
  induction list with
  | nil => simp
  | cons head rest ih =>
    by_cases kept : keep head
    · rw [List.filter_cons_of_pos kept, mergeSort_cons_eq trans total,
        mergeSort_cons_eq trans total, List.filter_append, List.filter_cons_of_pos kept,
        swap, swap (le head), ih]
    · obtain ⟨smaller, others, whole, apart, -⟩ := List.mergeSort_cons trans total head rest
      rw [List.filter_cons_of_neg kept, ← ih, whole, apart, List.filter_append,
        List.filter_cons_of_neg kept, List.filter_append]

/-- Dropping repetitions and leaving elements out can be done in either order. -/
theorem filter_eraseDups [BEq α] [LawfulBEq α] (keep : α → Bool) (list : List α) :
    list.eraseDups.filter keep = (list.filter keep).eraseDups := by
  induction length : list.length using Nat.strongRecOn generalizing list with
  | ind size ih =>
    cases list with
    | nil => rfl
    | cons head rest =>
      have shorter : (rest.filter fun other => !other == head).length < size := by
        rw [← length, List.length_cons]
        exact Nat.lt_succ_of_le (List.length_filter_le _ _)
      have later := ih _ shorter _ rfl
      rw [List.eraseDups_cons]
      by_cases kept : keep head
      · rw [List.filter_cons_of_pos kept, List.filter_cons_of_pos kept, List.eraseDups_cons, later,
          List.filter_filter, List.filter_filter]
        simp only [Bool.and_comm]
      · rw [List.filter_cons_of_neg kept, List.filter_cons_of_neg kept, later, List.filter_filter]
        refine congrArg List.eraseDups (List.filter_congr fun other _ => ?_)
        by_cases same : other = head
        · subst same
          simp [kept]
        · simp [same]

/-- Elements from which nothing is gathered can be left out. -/
theorem flatMap_filter_eq (keep : α → Bool) (gathered : α → List β) (list : List α)
    (nothing : ∀ element ∈ list, keep element = false → gathered element = []) :
    (list.filter keep).flatMap gathered = list.flatMap gathered := by
  induction list with
  | nil => rfl
  | cons element rest ih =>
    have later := ih fun other inside => nothing other (List.mem_cons_of_mem _ inside)
    rw [List.flatMap_cons]
    by_cases kept : keep element
    · rw [List.filter_cons_of_pos kept, List.flatMap_cons, later]
    · rw [List.filter_cons_of_neg kept, later,
        nothing element List.mem_cons_self (Bool.eq_false_iff.mpr kept), List.nil_append]

end Lists

/-! ## The order of paths -/

theorem Path.precedes_trans (first second third : List String)
    (before : Path.precedes first second) (after : Path.precedes second third) :
    Path.precedes first third := by
  induction first generalizing second third with
  | nil => rfl
  | cons head rest ih =>
    cases second with
    | nil => cases before
    | cons other others =>
      cases third with
      | nil => cases after
      | cons last lasts =>
        unfold Path.precedes at before after ⊢
        by_cases same : head = other
        · subst same
          rw [if_pos rfl] at before
          by_cases equal : head = last
          · rw [if_pos equal] at after ⊢
            exact ih others lasts before after
          · rw [if_neg equal] at after ⊢
            exact after
        · rw [if_neg same, decide_eq_true_eq] at before
          by_cases equal : other = last
          · subst equal
            rw [if_neg same]
            exact decide_eq_true before
          · rw [if_neg equal, decide_eq_true_eq] at after
            have less : head < last := String.lt_trans before after
            have apart : head ≠ last := by
              rintro rfl
              exact String.lt_irrefl head less
            rw [if_neg apart]
            exact decide_eq_true less

/-- The order in which the files of a pattern are given. -/
theorem Path.byNames_trans (first second third : Path)
    (before : Path.precedes first.names second.names)
    (after : Path.precedes second.names third.names) :
    Path.precedes first.names third.names :=
  Path.precedes_trans _ _ _ before after

theorem Path.byNames_total (first second : Path) :
    Path.precedes first.names second.names || Path.precedes second.names first.names := by
  rw [Bool.or_eq_true]
  exact Path.comparable _ _

/-! ## Searching both trees -/

namespace FileTree

/-- Whether a path leads to a file, but not to the one at a place. -/
def isOtherFile (place : List String) (tree : FileTree) (path : Path) : Bool :=
  tree.isFile path && !tree.leadsTo place path

/-- A path that leads nowhere is no file. -/
theorem filter_found (place : List String) (tree : FileTree) (path : Path) :
    (if (tree.find path).isOk then [path] else []).filter (isOtherFile place tree) =
      [path].filter (isOtherFile place tree) := by
  by_cases found : (tree.find path).isOk
  · rw [if_pos found]
  · have lost : isOtherFile place tree path = false := by
      unfold isOtherFile isFile
      cases ended : tree.find path with
      | error fault => rfl
      | ok entry => exact absurd (ended ▸ rfl) found
    rw [if_neg found, List.filter_cons_of_neg (Bool.eq_false_iff.mp lost)]

namespace DifferAt

variable {place : List String} {first second : FileTree}

theorem isOtherFile_eq (differ : DifferAt place first second) :
    isOtherFile place first = isOtherFile place second := by
  funext path
  unfold isOtherFile
  rw [← differ.leadsTo_eq]
  by_cases there : first.leadsTo place path
  · rw [there, Bool.not_true, Bool.and_false, Bool.and_false]
  · rw [differ.isFile_eq (Bool.eq_false_iff.mpr there)]

/-- A path to a child that is a file leads to the place of the child. -/
theorem isOtherFile_child (differ : DifferAt place first second) {path : Path} {here : List String}
    {name : String}
    (ended : (first.locate (first.start path) path.names).toOption = some here)
    (same : here ++ [name] = place) : isOtherFile place first (path.child name) = false := by
  obtain ⟨directory, last, apart, noDot, noDots⟩ := differ.named
  obtain ⟨rfl, sameName⟩ := List.append_inj' (same.trans apart) rfl
  obtain rfl := List.singleton_inj.mp sameName
  have child : (first.locate (first.start (path.child name)) (path.child name).names).toOption =
      (first.step here name).toOption := by
    show (first.locate (first.start path) (path.names ++ [name])).toOption = _
    rw [locate_toOption_append, ended, Option.bind_some]
  by_cases steps : first.entryAt here = some .directory ∧ hasNull name = false
  · have there : first.leadsTo place (path.child name) = true := by
      rw [leadsTo, child, step_toOption, if_pos steps, if_neg noDot, if_neg noDots, same]
      exact decide_eq_true rfl
    rw [isOtherFile, there, Bool.not_true, Bool.and_false]
  · have lost : ¬ first.isFile (path.child name) := by
      rw [isFile_iff, find_toOption, child, step_toOption, if_neg steps]
      rintro ⟨content, found⟩
      cases found
    rw [isOtherFile, Bool.eq_false_iff.mpr lost, Bool.false_and]

/-- What is gathered from the names in a directory is the same in both trees, if nothing comes from
the file at the place. -/
theorem flatMap_childrenOf_eq (differ : DifferAt place first second) {β : Type} (path : Path)
    (gathered : String × Entry → List β)
    (passed : ∀ here child, (first.locate (first.start path) path.names).toOption = some here →
      child.2 ≠ .directory → here ++ [child.1] = place → gathered child = []) :
    (first.childrenOf path).flatMap gathered = (second.childrenOf path).flatMap gathered := by
  have drop (list : List (String × Entry)) :
      list.flatMap gathered =
        (list.filter fun child => !(gathered child).isEmpty).flatMap gathered := by
    refine (flatMap_filter_eq _ _ _ fun child _ empty => ?_).symm
    rw [Bool.not_eq_false'] at empty
    exact List.isEmpty_iff.mp empty
  have listed (tree : FileTree) : tree.childrenOf path =
      ((tree.locate (tree.start path) path.names).toOption.map tree.children).getD [] := by
    unfold childrenOf
    cases tree.locate (tree.start path) path.names <;> rfl
  rw [drop, drop (second.childrenOf path), listed, listed, ← differ.start_eq, ← differ.locate_eq]
  cases ended : (first.locate (first.start path) path.names).toOption with
  | none => rfl
  | some here =>
    refine congrArg _ (differ.children_eq here _ fun child kind held same => ?_)
    rw [passed here child ended kind same] at held
    cases held

end DifferAt

end FileTree

namespace Glob

open FileTree

variable {place : List String} {first second : FileTree}

/-- The directories under a path are the same in both trees. -/
theorem directoriesUnder_eq (differ : DifferAt place first second) (depth : Nat)
    (path : Path) : directoriesUnder first depth path = directoriesUnder second depth path := by
  induction depth generalizing path with
  | zero => rfl
  | succ depth ih =>
    rw [directoriesUnder, directoriesUnder]
    simp only [ih]
    refine congrArg _ (differ.flatMap_childrenOf_eq path _ fun here child _ kind _ => ?_)
    exact if_neg kind

/-- What the names of a directory that pieces stand for lead to, as gathered from the directory. -/
theorem matchingNames_flatMap (tree : FileTree) (pieces : List Piece) (deeper : Bool) (path : Path)
    (found : String → List Path) :
    (matchingNames tree pieces deeper path).flatMap found =
      (tree.childrenOf path).flatMap fun child =>
        if (!deeper || child.2 = .directory) && matchesPieces pieces child.1.toList then
          found child.1
        else [] := by
  rw [matchingNames]
  induction tree.childrenOf path with
  | nil => rfl
  | cons child rest ih =>
    rw [List.flatMap_cons, ← ih, List.filter_cons]
    split
    · rfl
    · rfl

/-- The files apart from the changed one that the parts of a pattern stand for are the same in both
trees, in the same order. -/
theorem select_filter (differ : DifferAt place first second) (parts : List Part)
    (path : Path) : (select first parts path).filter (isOtherFile place first) =
      (select second parts path).filter (isOtherFile place first) := by
  induction parts generalizing path with
  | nil => rfl
  | cons part rest ih =>
    cases part with
    | anyDepth =>
      rw [select, select, filter_eraseDups, filter_eraseDups, List.filter_flatMap,
        List.filter_flatMap, differ.directoryCount_eq, directoriesUnder_eq differ]
      simp only [ih]
    | exact name =>
      rw [select, select]
      cases rest with
      | nil =>
        rw [select, select, List.isEmpty_nil, if_pos rfl, if_pos rfl, filter_found,
          differ.isOtherFile_eq, filter_found]
      | cons next more =>
        rw [List.isEmpty_cons, if_neg Bool.false_ne_true, if_neg Bool.false_ne_true,
          differ.isDirectory_eq]
        split
        · exact ih _
        · rfl
    | wild pieces =>
      rw [select, select, List.filter_flatMap, List.filter_flatMap]
      simp only [ih]
      rw [matchingNames_flatMap, matchingNames_flatMap]
      refine differ.flatMap_childrenOf_eq path _ fun here child ended kind same => ?_
      -- The changed file is no directory: it can only be what the last part stands for.
      cases rest with
      | nil =>
        have passed := differ.isOtherFile_child ended same
        rw [select, List.filter_cons_of_neg (Bool.eq_false_iff.mp passed), List.filter_nil,
          ite_self]
      | cons next more =>
        rw [List.isEmpty_cons, Bool.not_false, Bool.not_true, Bool.false_or, decide_eq_false kind,
          Bool.false_and]
        rfl

/-- **One pattern in two trees.** The files that a pattern stands for are the same in both trees,
in the same order, the changed one apart; and a pattern that cannot be read fails in both. -/
theorem files_filter (differ : DifferAt place first second) (target : Path)
    (pattern : String) :
    (files first target pattern).map (List.filter fun path => !first.leadsTo place path) =
      (files second target pattern).map (List.filter fun path => !first.leadsTo place path) := by
  have ordered (tree : FileTree) (paths : List Path) :
      ((paths.filter tree.isFile).mergeSort
        fun first second => Path.precedes first.names second.names).filter
          (fun path => !tree.leadsTo place path) =
        (paths.filter (isOtherFile place tree)).mergeSort
          fun first second => Path.precedes first.names second.names := by
    rw [filter_mergeSort Path.byNames_trans Path.byNames_total, List.filter_filter]
    refine congrArg (List.mergeSort · _) (List.filter_congr fun path _ => ?_)
    exact Bool.and_comm ..
  have same : (fun path => !first.leadsTo place path) = fun path => !second.leadsTo place path :=
    funext fun path => congrArg _ (differ.leadsTo_eq place path)
  unfold files
  cases partsOf pattern with
  | error fault => rfl
  | ok read =>
    obtain ⟨parts, directories⟩ := read
    show (ite _ _ _ : Except Fault (List Path)).map _ = (ite _ _ _ : Except Fault (List Path)).map _
    rw [differ.isDirectory_eq]
    split
    · rfl
    · show Except.ok _ = Except.ok _
      rw [ordered, same, ordered, select_filter differ, differ.isOtherFile_eq]

end Glob

end RouteTable
