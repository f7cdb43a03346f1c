/-
**A file that was written is read.**

A name under which a file may be written leads, once the file is there, to that file. Its text is
the text that was written, if no line of it ends with a carriage return.

* `writable_ok`: what is known of a name under which a file may be written;
* `findText_put`: the name leads to the file;
* `textOf_put`: the text that is read is the text that was written.
-/

import RouteTable.Proofs.Files.Change
import RouteTable.Proofs.Text.Utf8

namespace RouteTable.FileTree

variable {tree : FileTree} {text : String} {place : List String}

theorem writableIn_ok {directory : List String} {name : String}
    (writable : tree.writableIn directory name = .ok place) :
    tree.entryAt directory = some .directory ∧ place = directory ++ [name] ∧
      tree.entryAt place ≠ some .directory := by
  unfold writableIn entryOf at writable
  simp only [bind, Except.bind, pure, Except.pure, throw, throwThe, MonadExceptOf.throw] at writable
  cases found : tree.entryAt directory with
  | none =>
    rw [found] at writable
    cases writable
  | some entry =>
    rw [found] at writable
    cases entry with
    | file content => cases writable
    | directory =>
      by_cases taken : tree.entryAt (directory ++ [name]) = some .directory
      · simp [taken] at writable
      · simp only [ne_eq, not_true_eq_false, if_false, if_neg taken, Except.ok.injEq] at writable
        exact ⟨rfl, writable.symm, writable ▸ taken⟩

/-- **The place that a name is written to** lies in a directory and is none itself. -/
theorem writable_ok (writable : tree.writable text = .ok place) :
    ∃ names directory last, text ≠ "" ∧ Path.steps text = names ++ [last] ∧
      tree.locate (tree.start (Path.ofText text)) names = .ok directory ∧
      tree.entryAt directory = some .directory ∧ hasNull last = false ∧ last ≠ "." ∧
      last ≠ ".." ∧ place = directory ++ [last] ∧ tree.entryAt place ≠ some .directory := by
  unfold FileTree.writable at writable
  simp only [bind, Except.bind, pure, Except.pure, throw, throwThe, MonadExceptOf.throw] at writable
  split at writable
  · cases writable
  next written =>
  split at writable
  · cases writable
  next clean =>
  split at writable
  · cases writable
  next last ending =>
  split at writable
  · cases writable
  next directory located =>
  split at writable
  · cases writable
  next here inside =>
  split at writable
  · cases writable
  next plain =>
  cases writable
  obtain ⟨noDot, noDots, noSlash⟩ := not_or.mp plain |>.imp_right not_or.mp
  obtain ⟨found, same, free⟩ := writableIn_ok inside
  obtain ⟨names, split⟩ := List.getLast?_eq_some_iff.mp ending
  rw [split, List.dropLast_concat] at located
  have nameable : hasNull last = false := by
    rw [split, List.any_append, Bool.or_eq_true, not_or] at clean
    simpa using clean.2
  exact ⟨names, directory, last, written, (if_neg noSlash).trans split, located, found, nameable,
    noDot, noDots, same, free⟩

/-- A file in the place of no directory leaves all directories as they are. -/
theorem put_sameDirectories (content : ByteArray)
    (free : tree.entryAt place ≠ some .directory) :
    SameDirectories tree (tree.put place (.file content)) := by
  intro wanted
  by_cases root : wanted = []
  · subst root
    exact Iff.rfl
  · rw [entryAt_put tree place wanted _ root]
    by_cases same : place = wanted
    · subst same
      simp [free]
    · rw [if_neg same]

/-- **A name leads to the file that was written under it.** -/
theorem findText_put (writable : tree.writable text = .ok place) (content : ByteArray) :
    (tree.put place (.file content)).findText text = .ok (.file content) := by
  obtain ⟨names, directory, last, written, steps, located, found, nameable, noDot, noDots, rfl,
    free⟩ := writable_ok writable
  have below : directory ++ [last] ≠ [] := List.concat_ne_nil last directory
  have same := put_sameDirectories content free
  generalize after : tree.put (directory ++ [last]) (.file content) = later at same
  have there : (later.locate (tree.start (Path.ofText text)) (names ++ [last])).toOption =
      some (directory ++ [last]) := by
    rw [locate_toOption_append, ← locate_sameDirectories same, located]
    show (later.step directory last).toOption = _
    rw [step_toOption, if_pos ⟨(same directory).mp found, nameable⟩, if_neg noDot, if_neg noDots]
  have entry : later.entryAt (directory ++ [last]) = some (.file content) := by
    rw [← after, entryAt_put tree _ _ _ below, if_pos rfl]
  have start : later.start (Path.ofText text) = tree.start (Path.ofText text) := by
    rw [← after]
    rfl
  have ended : later.locate (later.start (Path.ofText text)) (Path.steps text) =
      .ok (directory ++ [last]) := by
    rw [steps, start]
    cases reached : later.locate (tree.start (Path.ofText text)) (names ++ [last]) with
    | error fault =>
      rw [reached] at there
      cases there
    | ok here =>
      rw [reached] at there
      exact congrArg Except.ok (Option.some.inj there)
  unfold findText
  rw [if_neg written]
  show (later.locate _ _ >>= later.entryOf) = _
  rw [ended]
  show later.entryOf _ = _
  rw [entryOf, entry]

/-- Line feeds are kept where no carriage return stands. -/
theorem unifyLineEnds_of_noReturn {chars : List Char} (clean : '\r' ∉ chars) :
    unifyLineEnds chars = chars := by
  induction chars with
  | nil => rfl
  | cons head rest ih =>
    have other : head ≠ '\r' := fun same => clean (same ▸ List.mem_cons_self)
    have later := ih fun inside => clean (List.mem_cons_of_mem head inside)
    rw [unifyLineEnds, later]
    · exact fun _ same _ => other same
    · exact other

/-- **The text that was written is read.** -/
theorem textOf_put {name content : String} (writable : tree.writable name = .ok place)
    (clean : '\r' ∉ content.toList) :
    textOf name ((tree.put place (.file content.toUTF8)).findText name) = .ok content := by
  rw [findText_put writable, textOf, Text.Utf8.decode_toUTF8]
  dsimp only
  rw [unifyLineEnds_of_noReturn clean, String.ofList_toList]

end RouteTable.FileTree
