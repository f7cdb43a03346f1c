/-
**Comments are passed over.**

A comment may stand between any two children of a node. Statements, arguments, options, arrays,
hashes, blocks and their parameters are read without the comments among them. Parentheses are not:
they stand for the value in them if it is the only named child, and a comment is one, too. So a
comment takes the value away, and only there.

* `AddsComment`: a comment is inserted among the children of a node;
* `collect_commented`: a tree with comments gives the same calls, if no comment is put into
  parentheses that are read for the one value in them;
* `collect_comment_in_parentheses`: a comment in parentheses takes the name of a resource away.
-/

import RouteTable.Proofs.Source.Rewriting

namespace RouteTable.Source

variable {source : ByteArray}

/-- Among two or more named children there is no only one. -/
theorem onlyValue?_eq_none {children : List Node}
    (several : 2 ≤ (children.filter Node.named).length) : onlyValue? source children = none := by
  have other : (children.filter Node.named).length ≠ 1 := by omega
  rw [onlyValue?_eq, if_neg other]

/-- A comment is inserted among the children of a node that is no quoted text. If the node is in
parentheses and its value counts, then there are two or more named children before. -/
inductive AddsComment (roles : List Role) (node : Node) : List Node → Prop
  | insert {before after : List Node} {comment : Node} : node.children = before ++ after →
      comment.IsComment → node.kind ≠ .string → node.kind ≠ .delimitedSymbol →
      (node.kind = .parenthesized → (∃ role ∈ roles, role.readsValue = true) →
        2 ≤ node.namedChildren.length) →
      AddsComment roles node (before ++ comment :: after)

/-- A comment is invisible where it is inserted. -/
theorem AddsComment.same {roles : List Role} {node : Node} {children : List Node}
    (adds : AddsComment roles node children) :
    ∀ role ∈ roles, role.Same source node (node.withChildren children) := by
  obtain ⟨written, isComment, string, symbol, several⟩ := adds
  rename_i before after comment
  intro role member
  have alike : Alike source True (role.within node) node.children (before ++ comment :: after) := by
    rw [written]
    exact .comment trivial isComment before after
  refine Role.same_of_alike alike fun counts => ⟨?_, fun parentheses => ?_⟩
  · rintro (quoted | quoted)
    · exact absurd quoted string
    · exact absurd quoted symbol
  · have known : 2 ≤ (node.children.filter Node.named).length :=
      several parentheses ⟨role, member, counts⟩
    have kept : (before ++ after).Sublist (before ++ comment :: after) :=
      (List.Sublist.refl before).append (List.sublist_cons_self comment after)
    have more : 2 ≤ ((before ++ comment :: after).filter Node.named).length := by
      rw [written] at known
      exact Nat.le_trans known (kept.filter Node.named).length_le
    rw [onlyValue?_eq_none known, onlyValue?_eq_none more]

/-- **Comments are passed over.** A tree in which comments are inserted at any depth, or taken away,
gives the same calls, unless a comment is put into parentheses that are read for a value and have
less than two named children. -/
theorem collect_commented {tree other : Node}
    (rewritten : Rewritten AddsComment [.statement] tree other) :
    collect source other = collect source tree :=
  rewritten.collect_eq fun adds => adds.same

/-- Comments in the arguments of a call and in the parentheses around a statement of its block. -/
theorem collect_commented_block :
    let source := "resources :posts do (show) end".toUTF8
    let comment (start : Nat) : Node := ⟨.comment, start, start, 0, none, true, []⟩
    let name : Node := ⟨.identifier, 0, 9, 0, some .method, true, []⟩
    let arguments (children : List Node) : Node :=
      ⟨.argumentList, 10, 16, 0, some .arguments, true, children⟩
    let group (children : List Node) : Node := ⟨.parenthesized, 20, 26, 0, none, true, children⟩
    let block (children : List Node) : Node := ⟨.doBlock, 17, 30, 0, some .block, true, children⟩
    let call (first second : List Node) : Node :=
      ⟨.call, 0, 30, 0, none, true, [name, arguments first, block [group second]]⟩
    let tree (first second : List Node) : Node :=
      ⟨.program, 0, 30, 0, none, true, [call first second]⟩
    let posts : Node := ⟨.simpleSymbol, 10, 16, 0, none, true, []⟩
    let statement : Node := ⟨.identifier, 21, 25, 0, none, true, []⟩
    Rewritten AddsComment [.statement] (tree [posts] [statement])
        (tree [posts, comment 16] [comment 21, statement]) ∧
      (collect source (tree [posts] [statement])).map Call.firstLiteral? = [some "posts"] ∧
      collect source (tree [posts, comment 16] [comment 21, statement]) =
        collect source (tree [posts] [statement]) := by
  intro source comment name arguments group block call tree posts statement
  have isComment (start : Nat) : (comment start).IsComment := ⟨rfl, rfl⟩
  -- a comment after the argument
  have inTree : (tree [posts] [statement]).children = [] ++ call [posts] [statement] :: [] := rfl
  have inCall : (call [posts] [statement]).children =
      [name] ++ arguments [posts] :: [block [group [statement]]] := rfl
  have listed : (arguments [posts]).children = [posts] ++ [] := rfl
  have first : Rewritten AddsComment [.statement] (tree [posts] [statement])
      (tree [posts, comment 16] [statement]) :=
    .inside inTree (.inside inCall
      (.here (.insert listed (isComment 16) (by decide) (by decide) nofun)))
  -- a comment before the statement, which is the only thing in its parentheses
  have inOther : (tree [posts, comment 16] [statement]).children =
      [] ++ call [posts, comment 16] [statement] :: [] := rfl
  have inCalled : (call [posts, comment 16] [statement]).children =
      [name, arguments [posts, comment 16]] ++ block [group [statement]] :: [] := rfl
  have inBlock : (block [group [statement]]).children = [] ++ group [statement] :: [] := rfl
  have grouped : (group [statement]).children = [] ++ [statement] := rfl
  have second : Rewritten AddsComment [.statement] (tree [posts, comment 16] [statement])
      (tree [posts, comment 16] [comment 21, statement]) :=
    .inside inOther (.inside inCalled (.inside inBlock
      (.here (.insert grouped (isComment 21) (by decide) (by decide) (by decide)))))
  exact ⟨first.trans second, by decide +kernel, collect_commented (first.trans second)⟩

/-- A comment in the parentheses around the name of a resource: without it the argument is the
symbol, with it the argument is an expression, which names nothing. -/
theorem collect_comment_in_parentheses :
    let source := "resources((:posts # all\n))".toUTF8
    let posts : Node := ⟨.simpleSymbol, 11, 17, 0, none, true, []⟩
    let comment : Node := ⟨.comment, 18, 23, 0, none, true, []⟩
    let tree (children : List Node) : Node := ⟨.program, 0, 26, 0, none, true,
      [⟨.call, 0, 26, 0, none, true, [⟨.identifier, 0, 9, 0, some .method, true, []⟩,
        ⟨.argumentList, 9, 26, 0, some .arguments, true,
          [⟨.parenthesized, 10, 25, 0, none, true, children⟩]⟩]⟩]⟩
    comment.IsComment ∧
      (collect source (tree [posts])).map Call.firstLiteral? = [some "posts"] ∧
      (collect source (tree [posts, comment])).map Call.firstLiteral? = [none] := by
  intro source posts comment tree
  exact ⟨⟨rfl, rfl⟩, by decide +kernel, by decide +kernel⟩

end RouteTable.Source
