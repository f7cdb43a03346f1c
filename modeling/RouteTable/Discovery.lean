/-
**Finding the routing files.**

The files of a project are those that its patterns stand for, pattern by pattern, each file once.
A file with an ignored name on the way from the project's directory to it is left out and counted.
A target that is a file itself is the only file.

* `visitAll_seen`: exactly the files that were offered are seen;
* `visitAll_found`: a seen file is found if and only if it is not ignored.
-/

import RouteTable.Glob
import RouteTable.Settings

namespace RouteTable

/-- Why a step of a session fails. -/
inductive SessionFault
  | pattern (fault : Glob.Fault)
  | unusableGlobs
  | unusableIgnored
  | unusableLimit
  | unread (fault : ReadFault)
deriving DecidableEq, Repr

/-- Whether a path is left out: the names after the target count, or all names outside of it. -/
def IgnoredNames.ignores? (ignored : IgnoredNames) (target path : Path) : Option Bool := do
  let verdicts ← ((target.after? path).getD path.parts).mapM ignored.contains?
  return verdicts.any id

/-- The files that are seen so far: those found, and how many were left out. -/
structure Discovery where
  seen : List Path := []
  found : List Path := []
  skipped : Nat := 0
deriving DecidableEq, Repr

namespace Discovery

/-- Looks at a file, unless it was seen before. -/
def visit (ignores : Path → Bool) (discovery : Discovery) (path : Path) : Discovery :=
  if path ∈ discovery.seen then discovery
  else if ignores path then
    { discovery with seen := discovery.seen ++ [path], skipped := discovery.skipped + 1 }
  else
    { discovery with seen := discovery.seen ++ [path], found := discovery.found ++ [path] }

/-- Looks at files in order. -/
def visitAll (ignores : Path → Bool) (discovery : Discovery) (paths : List Path) : Discovery :=
  paths.foldl (visit ignores) discovery

theorem visit_seen (ignores : Path → Bool) (discovery : Discovery) (path other : Path) :
    other ∈ (discovery.visit ignores path).seen ↔ other ∈ discovery.seen ∨ other = path := by
  unfold visit
  split
  · next present => exact ⟨.inl, fun cases => cases.elim id fun equal => equal ▸ present⟩
  · split <;> simp

theorem visitAll_seen (ignores : Path → Bool) (discovery : Discovery) (paths : List Path)
    (path : Path) :
    path ∈ (discovery.visitAll ignores paths).seen ↔ path ∈ discovery.seen ∨ path ∈ paths := by
  induction paths generalizing discovery with
  | nil => simp [visitAll]
  | cons head rest ih =>
    have step := ih (discovery.visit ignores head)
    rw [visitAll, List.foldl_cons]
    rw [visitAll] at step
    rw [step, visit_seen, List.mem_cons, or_assoc]

theorem visitAll_found (ignores : Path → Bool) (discovery : Discovery) (paths : List Path)
    (exact : ∀ path, path ∈ discovery.found ↔ path ∈ discovery.seen ∧ ignores path = false)
    (path : Path) :
    path ∈ (discovery.visitAll ignores paths).found ↔
      path ∈ (discovery.visitAll ignores paths).seen ∧ ignores path = false := by
  induction paths generalizing discovery with
  | nil => exact exact path
  | cons head rest ih =>
    rw [visitAll, List.foldl_cons]
    refine ih (discovery.visit ignores head) fun other => ?_
    rw [visit_seen]
    unfold visit
    have before := exact other
    by_cases present : head ∈ discovery.seen
    · rw [if_pos present]
      constructor
      · intro inside; exact ⟨.inl (before.1 inside).1, (before.1 inside).2⟩
      · rintro ⟨inside | rfl, kept⟩
        · exact before.2 ⟨inside, kept⟩
        · exact before.2 ⟨present, kept⟩
    · rw [if_neg present]
      by_cases ignored : ignores head = true
      · rw [if_pos ignored]
        constructor
        · intro inside; exact ⟨.inl (before.1 inside).1, (before.1 inside).2⟩
        · rintro ⟨inside | rfl, kept⟩
          · exact before.2 ⟨inside, kept⟩
          · rw [ignored] at kept; contradiction
      · rw [if_neg ignored]
        simp only [List.mem_append, List.mem_singleton, before]
        constructor
        · rintro (⟨inside, kept⟩ | rfl)
          · exact ⟨.inl inside, kept⟩
          · exact ⟨.inr rfl, by simpa using ignored⟩
        · rintro ⟨inside | rfl, kept⟩
          · exact .inl ⟨inside, kept⟩
          · exact .inr rfl

/-- The files that one pattern stands for. -/
def filesOf (tree : FileTree) (target : Path) : Datum → Except SessionFault (List Path)
  | .text pattern => (Glob.files tree target pattern).mapError SessionFault.pattern
  | other =>
    .error (.pattern (if other.isTruthy then .notText else .empty other.displayed))

/-- Goes through patterns in order; a pattern that cannot be used ends the search. -/
def explore (tree : FileTree) (ignored : IgnoredNames) (target : Path) :
    List Datum → Discovery → Discovery × Option SessionFault
  | [], discovery => (discovery, none)
  | pattern :: rest, discovery =>
    match filesOf tree target pattern with
    | .error fault => (discovery, some fault)
    | .ok paths =>
      if paths.any fun path => (ignored.ignores? target path).isNone then
        (discovery, some .unusableIgnored)
      else
        let ignores (path : Path) : Bool := (ignored.ignores? target path).getD false
        explore tree ignored target rest (discovery.visitAll ignores paths)

/-- The search for the routing files of a target. -/
def ofTarget (tree : FileTree) (settings : Settings) (target : Path) :
    Discovery × Option SessionFault :=
  if tree.isFile target then ({ seen := [target], found := [target] }, none)
  else
    let globs := if settings.globs.isTruthy then settings.globs else .texts Settings.defaultGlobs
    match Settings.itemsOf? globs with
    | some patterns => explore tree settings.ignored target patterns {}
    | none => ({}, some .unusableGlobs)

end Discovery

end RouteTable
