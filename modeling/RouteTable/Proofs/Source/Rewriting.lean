/-
**Rewriting a syntax tree.**

An edit replaces the children of a node. It may depend on the roles in which the node is read,
which follow from the roles of the nodes above it. An edit that is invisible in all roles of the
node where it is made is invisible at the root, wherever in the tree it is made and however often.

* `Rewritten`: a tree after edits at any depth, made or taken back in any order;
* `Rewritten.twins`: invisible edits are invisible at the root.
-/

import RouteTable.Proofs.Source.Reading

namespace RouteTable.Source

/-- Edits at any depth of a node that is read in some roles. -/
inductive Rewritten (edit : List Role → Node → List Node → Prop) : List Role → Node → Node → Prop
  | refl {roles : List Role} (node : Node) : Rewritten edit roles node node
  | symm {roles : List Role} {node twin : Node} : Rewritten edit roles node twin →
      Rewritten edit roles twin node
  | trans {roles : List Role} {node twin other : Node} : Rewritten edit roles node twin →
      Rewritten edit roles twin other → Rewritten edit roles node other
  | here {roles : List Role} {node : Node} {children : List Node} : edit roles node children →
      Rewritten edit roles node (node.withChildren children)
  | inside {roles : List Role} {node child twin : Node} {before after : List Node} :
      node.children = before ++ child :: after →
      Rewritten edit (roles.flatMap fun role => role.within node child) child twin →
      Rewritten edit roles node (node.withChildren (before ++ twin :: after))

variable {source : ByteArray}

/-- A node whose children are rewritten is read as before, if each child is read as before in the
roles that follow. -/
theorem Role.same_of_child {role : Role} {node child twin : Node} {before after : List Node}
    (children : node.children = before ++ child :: after)
    (twins : Twins source (fun child => role.within node child) child twin) :
    role.Same source node (node.withChildren (before ++ twin :: after)) := by
  have alike : Alike source False (role.within node) node.children (before ++ twin :: after) := by
    rw [children]
    exact .replace twins before after
  exact Role.same_of_alike alike fun counts => .of_alike not_false counts alike

/-- **Invisible edits are invisible at the root.** If every edit leaves its node as it is read in
each of its roles, then a rewritten tree has the frame of the tree and is read in the same way. -/
theorem Rewritten.twins {edit : List Role → Node → List Node → Prop}
    (invisible : ∀ {roles node children}, edit roles node children →
      ∀ role ∈ roles, role.Same source node (node.withChildren children))
    {roles : List Role} {node twin : Node} (rewritten : Rewritten edit roles node twin) :
    Twins source (fun _ => roles) node twin := by
  induction rewritten with
  | refl node => exact .refl node
  | symm _ ih =>
    refine ⟨?_, fun role member => Role.same_symm (ih.same role member)⟩
    rw [ih.framed]
    exact (Node.withChildren_children _).symm
  | trans _ _ first second =>
    refine ⟨?_, fun role member =>
      Role.same_trans (first.same role member) (second.same role member)⟩
    rw [second.framed, first.framed]
    rfl
  | here edited => exact ⟨rfl, invisible edited⟩
  | @inside roles node child twin before after children _ ih =>
    refine ⟨rfl, fun role member => Role.same_of_child children ⟨ih.framed, ?_⟩⟩
    intro inner follows
    exact ih.same inner (List.mem_flatMap.mpr ⟨role, member, follows⟩)

/-- Statements are collected as before from a tree with invisible edits. -/
theorem Rewritten.collect_eq {edit : List Role → Node → List Node → Prop}
    (invisible : ∀ {roles node children}, edit roles node children →
      ∀ role ∈ roles, role.Same source node (node.withChildren children))
    {tree other : Node} (rewritten : Rewritten edit [.statement] tree other) :
    collect source other = collect source tree :=
  (rewritten.twins invisible).same .statement List.mem_cons_self

end RouteTable.Source
