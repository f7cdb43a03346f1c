/-
**Grouping and conditions are passed over.**

Statements may stand in a container, in the branches of a condition or before a condition that is
put after them. A node that holds a run of statements in one of these ways stands for what the run
stands for, statement by statement in order, so each branch of a condition counts once. Putting a
run of statements into such a node, at any depth where statements are read, changes no call.

* `Wraps`: the ways in which a node holds a run of statements;
* `Wraps.collect_eq`: such a node gives the calls of the run;
* `collect_regrouped`: a tree with regrouped statements gives the same calls.
-/

import RouteTable.Proofs.Source.Rewriting

namespace RouteTable.Source

variable {source : ByteArray}

/-! ## Part 1 — nodes that hold statements -/

/-- The calls of the named nodes, one node after the other. -/
theorem collectAll_eq_named (source : ByteArray) (children : List Node) :
    collectAll source children = (children.filter Node.named).flatMap (collect source) := by
  induction children with
  | nil => rfl
  | cons child rest ih =>
    rw [collectAll, ih]
    by_cases seen : child.named = true
    · rw [if_pos seen, List.filter_cons_of_pos seen, List.flatMap_cons]
    · rw [if_neg seen, List.filter_cons_of_neg seen, List.nil_append]

theorem collect_container {node : Node} (container : node.kind.holdsStatements = true) :
    collect source node = collectAll source node.children := by
  rw [collect_eq]
  cases kind : node.kind <;> rw [kind] at container <;> first | rfl | cases container

theorem collect_branch {node : Node} (branch : node.kind.isBranch = true) :
    collect source node = collectField source .consequence node.children ++
      collectField source .alternative node.children := by
  rw [collect_eq]
  cases kind : node.kind <;> rw [kind] at branch <;> first | rfl | cases branch

theorem collect_modifier {node : Node} (modifier : node.kind.isModifier = true) :
    collect source node = collectField source .body node.children := by
  rw [collect_eq]
  cases kind : node.kind <;> rw [kind] at modifier <;> first | rfl | cases modifier

/-- The field that a node stands in plays no part in what it gives. -/
theorem collect_inField (node : Node) (field : Field) :
    collect source (node.inField field) = collect source node := by
  cases node
  rfl

/-! ## Part 2 — runs of statements -/

/-- **A node that holds a run of statements.** A container has the run for its named children. A
condition has it in its consequence, or the first part in the consequence and the rest in the
alternative; each of these may hold its part in any of the ways. A modifier has one statement for
its body. -/
inductive Wraps : List Node → Node → Prop
  | container {run : List Node} {holder : Node} : holder.kind.holdsStatements = true →
      holder.namedChildren = run.filter Node.named → Wraps run holder
  | branch {run : List Node} {holder consequence : Node} : holder.kind.isBranch = true →
      findField? .consequence holder.children = some consequence →
      findField? .alternative holder.children = none →
      Wraps run consequence → Wraps run holder
  | split {first rest : List Node} {holder consequence alternative : Node} :
      holder.kind.isBranch = true → findField? .consequence holder.children = some consequence →
      findField? .alternative holder.children = some alternative →
      Wraps first consequence → Wraps rest alternative → Wraps (first ++ rest) holder
  | modifier {statement holder : Node} : statement.named = true → holder.kind.isModifier = true →
      findField? .body holder.children = some (statement.inField .body) → Wraps [statement] holder

namespace Wraps

variable {run : List Node} {holder : Node}

theorem collect_eq (wraps : Wraps run holder) : collect source holder = collectAll source run := by
  induction wraps with
  | container kind children =>
    rw [collect_container kind, collectAll_eq_named, collectAll_eq_named, ← children]
    rfl
  | branch kind consequence alternative _ ih =>
    rw [collect_branch kind, collectField_eq, collectField_eq, consequence, alternative]
    show collect source _ ++ [] = _
    rw [ih, List.append_nil]
  | split kind consequence alternative _ _ first rest =>
    rw [collect_branch kind, collectField_eq, collectField_eq, consequence, alternative,
      collectAll_append]
    show collect source _ ++ collect source _ = _
    rw [first, rest]
  | @modifier statement holder seen kind body =>
    rw [collect_modifier kind, collectField_eq, body, collectAll, collectAll, if_pos seen,
      List.append_nil]
    exact collect_inField statement .body

/-- A node that holds statements is no list of parameters. -/
theorem kind_ne (wraps : Wraps run holder) : holder.kind ≠ .blockParameters := by
  intro kind
  cases wraps with
  | container container =>
    rw [kind] at container
    cases container
  | branch branch | split branch =>
    rw [kind] at branch
    cases branch
  | modifier _ modifier =>
    rw [kind] at modifier
    cases modifier

end Wraps

/-! ## Part 3 — regrouped trees -/

/-- A run of statements that stand next to each other is put into a node that holds them. The
statements are children of a container that is read as a statement, or they are children of a block
and no lists of parameters. -/
inductive Regroups (roles : List Role) (node : Node) : List Node → Prop
  | wrap {before run after : List Node} {holder : Node} :
      node.children = before ++ run ++ after → Wraps run holder → holder.named = true →
      (∀ role ∈ roles, role = .statement ∧ node.kind.holdsStatements = true ∨
        role = .block ∧ ∀ child ∈ run, child.kind ≠ .blockParameters) →
      Regroups roles node (before ++ holder :: after)

theorem blockStatements_append (source : ByteArray) (first second : List Node) :
    blockStatements source (first ++ second) =
      blockStatements source first ++ blockStatements source second := by
  simp only [blockStatements_eq_flatMap, List.flatMap_append]

/-- Without lists of parameters, a block gives the calls of its named children. -/
theorem blockStatements_eq_collectAll {children : List Node}
    (statements : ∀ child ∈ children, child.kind ≠ .blockParameters) :
    blockStatements source children = collectAll source children := by
  induction children with
  | nil => rfl
  | cons child rest ih =>
    have other : child.kind ≠ .blockParameters := statements child List.mem_cons_self
    have later := ih fun next inside => statements next (List.mem_cons_of_mem child inside)
    rw [blockStatements, collectAll, later]
    simp only [other, ne_eq, not_false_eq_true, decide_true, Bool.and_true]

/-- Regrouping is invisible where it is done. -/
theorem Regroups.same {roles : List Role} {node : Node} {children : List Node}
    (regroups : Regroups roles node children) :
    ∀ role ∈ roles, role.Same source node (node.withChildren children) := by
  obtain ⟨written, wraps, named, allowed⟩ := regroups
  rename_i before run after holder
  intro role member
  have held : collectAll source [holder] = collectAll source run := by
    rw [collectAll, collectAll, if_pos named, List.append_nil, wraps.collect_eq]
  have parts : before ++ holder :: after = before ++ [holder] ++ after := by simp
  rcases allowed role member with ⟨rfl, container⟩ | ⟨rfl, statements⟩
  · show collect source _ = collect source node
    have twin : (node.withChildren (before ++ holder :: after)).kind.holdsStatements = true :=
      container
    rw [collect_container twin, collect_container container, written]
    show collectAll source (before ++ holder :: after) = _
    rw [parts, collectAll_append, collectAll_append, collectAll_append, collectAll_append, held]
  · have single : ∀ child ∈ [holder], child.kind ≠ .blockParameters := by
      intro child only
      rw [List.mem_singleton.mp only]
      exact wraps.kind_ne
    constructor
    · show blockParameters source (before ++ holder :: after) = _
      rw [written, parts]
      have none {children : List Node} (each : ∀ child ∈ children, child.kind ≠ .blockParameters) :
          (children.filter fun child => child.named && child.kind = .blockParameters) = [] := by
        rw [List.filter_eq_nil_iff]
        intro child inside
        simp [each child inside]
      unfold blockParameters
      rw [List.filter_append, List.filter_append, List.filter_append, List.filter_append,
        none single, none statements]
    · show blockStatements source (before ++ holder :: after) = _
      rw [written, parts, blockStatements_append, blockStatements_append, blockStatements_append,
        blockStatements_append, blockStatements_eq_collectAll single,
        blockStatements_eq_collectAll statements, held]

/-- **Grouping and conditions are passed over.** A tree in which runs of statements are put into
nodes that hold them, or are taken out of such nodes, at any depth and in any order, gives the same
calls; and a node that holds a run gives the calls of each statement of it, once and in order. -/
theorem collect_regrouped (source : ByteArray) :
    (∀ {tree other : Node}, Rewritten Regroups [.statement] tree other →
      collect source other = collect source tree) ∧
    ∀ {run : List Node} {holder : Node}, Wraps run holder →
      collect source holder = (run.filter Node.named).flatMap (collect source) := by
  constructor
  · intro tree other rewritten
    exact rewritten.collect_eq fun regroups => regroups.same
  · intro run holder wraps
    rw [wraps.collect_eq, collectAll_eq_named]

/-- Two statements in the block of a call are put into the two branches of a condition. -/
theorem collect_regrouped_block :
    let source := "x do y; z end".toUTF8
    let word (start : Nat) (field : Option Field) : Node :=
      ⟨.identifier, start, start + 1, 0, field, true, []⟩
    let block (statements : List Node) : Node :=
      ⟨.doBlock, 2, 13, 0, some .block, true, statements⟩
    let call (statements : List Node) : Node :=
      ⟨.call, 0, 13, 0, none, true, [word 0 (some .method), block statements]⟩
    let tree (statements : List Node) : Node :=
      ⟨.program, 0, 13, 0, none, true, [call statements]⟩
    let run := [word 5 none, word 8 none]
    let branches : Node := ⟨.ifBranch, 5, 9, 0, none, true,
      [⟨.thenBody, 5, 6, 0, some .consequence, true, [word 5 none]⟩,
        ⟨.elseBody, 8, 9, 0, some .alternative, true, [word 8 none]⟩]⟩
    Rewritten Regroups [.statement] (tree run) (tree [branches]) ∧ Wraps run branches ∧
      (collect source (tree [branches])).map (·.name) = ["x"] ∧
      (collect source branches).map (·.name) = ["y", "z"] ∧
      collect source (tree [branches]) = collect source (tree run) ∧
      collect source branches = (run.filter Node.named).flatMap (collect source) := by
  intro source word block call tree run branches
  have wraps : Wraps ([word 5 none] ++ [word 8 none]) branches :=
    .split rfl rfl rfl (.container rfl rfl) (.container rfl rfl)
  have inBlock : (block run).children = [] ++ ([word 5 none] ++ [word 8 none]) ++ [] := rfl
  have inCall : (call run).children = [word 0 (some .method)] ++ block run :: [] := rfl
  have inTree : (tree run).children = [] ++ call run :: [] := rfl
  have rewritten : Rewritten Regroups [.statement] (tree run) (tree [branches]) :=
    .inside inTree (.inside inCall (.here (.wrap inBlock wraps rfl (by decide))))
  exact ⟨rewritten, wraps, by decide +kernel, by decide +kernel,
    (collect_regrouped source).1 rewritten, (collect_regrouped source).2 wraps⟩

end RouteTable.Source
