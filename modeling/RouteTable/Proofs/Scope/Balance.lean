/-
**Blocks give the frames back.**

At its end a block takes away the frame that is on top then, whether it is the frame of the block or
another one. The frame of the block is on top if its steps do not go below the level at which they
begin and end at that level. They may push and pop, and blocks among them may fail and need not give
back what they find: the frames below a level that is kept stay as they are.

* `run_suffix`, `runAll_suffix`: what one step and many steps leave below a level that they keep;
* `runAll_of_level`: steps that keep a level and end at it end with the frames they began with;
* `run_block_balanced`: a block of such steps gives the frames back, also when it fails, and passes
  on what it fails with.
-/

import RouteTable.Scope.Steps

namespace RouteTable.Scopes

/-- None of the steps that were carried out went below the level. -/
def KeepsLevel (level : Nat) (entries : List Entry) : Prop :=
  ∀ entry ∈ entries, level ≤ entry.scopes.length

instance (level : Nat) (entries : List Entry) : Decidable (KeepsLevel level entries) :=
  inferInstanceAs (Decidable (∀ entry ∈ entries, level ≤ entry.scopes.length))

namespace KeepsLevel

variable {level : Nat} {entries others : List Entry}

theorem left (kept : KeepsLevel level (entries ++ others)) : KeepsLevel level entries :=
  fun entry listed => kept entry (List.mem_append_left _ listed)

theorem right (kept : KeepsLevel level (entries ++ others)) : KeepsLevel level others :=
  fun entry listed => kept entry (List.mem_append_right _ listed)

end KeepsLevel

/-! ## What lies below a level -/

variable {base scopes : Scopes}

/-- Taking the top frame away leaves the frames below a level that is kept. -/
theorem suffix_tail (held : base <:+ scopes) (kept : base.length ≤ scopes.tail.length) :
    base <:+ scopes.tail := by
  cases scopes with
  | nil => exact held
  | cons top outer =>
    rcases List.suffix_cons_iff.mp held with rfl | below
    · exact absurd kept (Nat.not_succ_le_self _)
    · exact below

theorem leave_scopes (failure : Option String) (scopes : Scopes) :
    (leave failure scopes).2 = scopes.tail := by
  cases scopes <;> rfl

mutual

/-- **A step that keeps a level leaves the frames below it.** -/
theorem run_suffix : ∀ (step : Step) {scopes : Scopes}, base <:+ scopes →
    KeepsLevel base.length (run scopes step).1 → base <:+ (run scopes step).2
  | .push frame, scopes, held, _ => by
    rw [run]
    exact held.trans (List.suffix_cons frame scopes)
  | .pop, [], held, _ => held
  | .pop, top :: outer, held, kept => by
    rw [run] at kept ⊢
    exact suffix_tail held (kept _ List.mem_cons_self)
  | .reset, scopes, held, kept => by
    rw [run] at kept ⊢
    have low : base.length ≤ 0 := kept _ List.mem_cons_self
    exact List.eq_nil_of_length_eq_zero (Nat.le_zero.mp low) ▸ List.nil_suffix
  | .block frame steps failure, scopes, held, kept => by
    rw [run] at kept ⊢
    dsimp only at kept ⊢
    have inner : base <:+ (runAll (frame :: scopes) steps).2 :=
      runAll_suffix steps (held.trans (List.suffix_cons frame scopes)) kept.left
    have ended := kept.right _ List.mem_cons_self
    rw [leave_scopes] at ended ⊢
    exact suffix_tail inner ended
  | .resolve names options, scopes, held, _ => by
    rw [run]
    exact held
  | .resolveOne name module, scopes, held, _ => by
    rw [run]
    exact held
termination_by structural step => step

/-- **Steps that keep a level leave the frames below it.** -/
theorem runAll_suffix : ∀ (steps : List Step) {scopes : Scopes}, base <:+ scopes →
    KeepsLevel base.length (runAll scopes steps).1 → base <:+ (runAll scopes steps).2
  | [], scopes, held, _ => by
    rw [runAll]
    exact held
  | step :: rest, scopes, held, kept => by
    rw [runAll] at kept ⊢
    exact runAll_suffix rest (run_suffix step held kept.left) kept.right
termination_by structural steps => steps

end

/-- Steps that keep a level and end at it end with the frames they began with. -/
theorem runAll_of_level {steps : List Step}
    (kept : KeepsLevel scopes.length (runAll scopes steps).1)
    (level : (runAll scopes steps).2.length = scopes.length) : (runAll scopes steps).2 = scopes :=
  ((runAll_suffix steps List.suffix_rfl kept).eq_of_length level.symm).symm

/-! ## Blocks -/

/-- **A block gives the frames back as they were.** For all frames around it, every frame of its own
and all steps, with blocks among them that may fail: if no step goes below the level right after the
frame is pushed and the steps end at that level, the block ends with the frames it began with,
whether it fails or not. What it fails with inside is what it fails with at its end, which is not
lost for want of a frame to take away; without a failure inside there is none. -/
theorem run_block_balanced {scopes : Scopes} {frame : Frame} {steps : List Step}
    (kept : KeepsLevel (scopes.length + 1) (runAll (frame :: scopes) steps).1)
    (level : (runAll (frame :: scopes) steps).2.length = scopes.length + 1)
    (failure : Option String) :
    run scopes (.block frame steps failure) =
      ((runAll (frame :: scopes) steps).1 ++
        [⟨.block frame steps failure, failure.elim .done .failed, scopes⟩], scopes) := by
  have same : (runAll (frame :: scopes) steps).2 = frame :: scopes := runAll_of_level kept level
  rw [run, same]
  rfl

/-- A block that fails after a block among its steps, which fails too, has taken away its own frame
by hand and one that was pushed before it at its end. -/
theorem run_block_balanced_crossed :
    let scopes : Scopes := [.namespaced "admin"]
    let frame : Frame := .scoped (some "api") (.symbol "users")
    let steps : List Step :=
      [.push (.namespaced "test"), .block (.withOptions []) [.pop] (some "inner"),
        .resolveOne "posts" none]
    KeepsLevel (scopes.length + 1) (runAll (frame :: scopes) steps).1 ∧
      (runAll (frame :: scopes) steps).2.length = scopes.length + 1 ∧
      (run scopes (.block frame steps (some "outer"))).2 = scopes ∧
      (run scopes (.block frame steps (some "outer"))).1.getLast?.map Entry.outcome =
        some (.failed "outer") := by
  intro scopes frame steps
  have kept : KeepsLevel (scopes.length + 1) (runAll (frame :: scopes) steps).1 := by
    decide +kernel
  have level : (runAll (frame :: scopes) steps).2.length = scopes.length + 1 := by
    decide +kernel
  refine ⟨kept, level, ?_, ?_⟩
  · rw [run_block_balanced kept level]
  · rw [run_block_balanced kept level, List.getLast?_concat]
    rfl

end RouteTable.Scopes
