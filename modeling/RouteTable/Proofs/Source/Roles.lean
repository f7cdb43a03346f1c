/-
**The roles of the nodes of a syntax tree.**

A node is read as a statement, as a value, as a list of arguments or as a part of one of these, and
this alone decides how its children are read. Children are alike if each has the frame of its twin
and is read in the same way in every role that it is read in; comments may stand among the second
ones.

* `Role.within`: the roles in which a node reads its children;
* `Role.Same`: two nodes are read in the same way in a role;
* `Alike`: children of which each is read as its twin, with comments among the second ones;
* `Alike.replace`, `Alike.comment`: one child is replaced, and a comment is inserted.
-/

import RouteTable.Source.Calls

namespace RouteTable.Source

/-! ## Part 1 — roles -/

/-- A way of reading a node. -/
inductive Role
  | statement
  | value
  | arguments
  | argument
  | entry
  | block
  | parameters
deriving DecidableEq, Repr

/-- Whether a node gives its statements in two branches. -/
def Kind.isBranch : Kind → Bool
  | .ifBranch | .unlessBranch | .elsifBranch => true
  | _ => false

/-- Whether a node puts a condition after one statement. -/
def Kind.isModifier : Kind → Bool
  | .ifModifier | .unlessModifier => true
  | _ => false

namespace Node

/-- The node with other children. -/
def withChildren (node : Node) (children : List Node) : Node :=
  ⟨node.kind, node.start, node.stop, node.row, node.field, node.named, children⟩

@[simp] theorem withChildren_kind (node : Node) (children : List Node) :
    (node.withChildren children).kind = node.kind := rfl

@[simp] theorem withChildren_named (node : Node) (children : List Node) :
    (node.withChildren children).named = node.named := rfl

@[simp] theorem withChildren_isIn (field : Field) (node : Node) (children : List Node) :
    (node.withChildren children).isIn field = node.isIn field := rfl

@[simp] theorem withChildren_text (source : ByteArray) (node : Node) (children : List Node) :
    (node.withChildren children).text source = node.text source := rfl

@[simp] theorem withChildren_children (node : Node) : node.withChildren node.children = node := by
  cases node
  rfl

/-- A comment, which stands in no field. -/
structure IsComment (node : Node) : Prop where
  kind : node.kind = .comment
  field : node.field = none

end Node

namespace Role

/-- How a call reads one of its children. -/
def ofCallPart (child : Node) : List Role :=
  (if child.isIn .receiver then [.value] else []) ++
    (if child.isIn .arguments || child.kind = .argumentList then [.arguments] else []) ++
    if child.isIn .block || child.kind = .doBlock || child.kind = .braceBlock then [.block] else []

/-- How a pair reads one of its children. -/
def ofPairPart (child : Node) : List Role :=
  if child.isIn .key || child.isIn .value then [.value] else []

/-- How a statement reads one of its children. -/
def inStatement (node child : Node) : List Role :=
  if node.kind = .call then ofCallPart child
  else if node.kind.isBranch then
    if child.isIn .consequence || child.isIn .alternative then [.statement] else []
  else if node.kind.isModifier then if child.isIn .body then [.statement] else []
  else if node.kind.holdsStatements && child.named then [.statement] else []

/-- How a value reads one of its children; parentheses are read through if there is one thing in
them. -/
def inValue (node child : Node) : List Role :=
  match node.kind with
  | .call => ofCallPart child
  | .array | .symbolArray | .stringArray =>
    if child.named && child.kind ≠ .comment then [.value] else []
  | .hash => [.entry]
  | .parenthesized => if child.named && node.namedChildren.length = 1 then [.value] else []
  | _ => []

/-- The roles in which a node that is read in a role reads one of its children. -/
def within (node child : Node) : Role → List Role
  | .statement => inStatement node child
  | .value => inValue node child
  | .arguments => [.argument]
  | .argument => if node.kind = .pair then ofPairPart child else inValue node child
  | .entry => if node.kind = .pair then ofPairPart child else []
  | .block =>
    if !child.named then []
    else if child.kind = .blockParameters then [.parameters] else [.statement]
  | .parameters => []

/-- Whether the value of a node counts in a role. -/
def readsValue : Role → Bool
  | .value | .argument => true
  | _ => false

variable (source : ByteArray)

/-- Two nodes are read in the same way in a role. -/
def Same (node twin : Node) : Role → Prop
  | .statement => collect source twin = collect source node
  | .value => Source.value source twin = Source.value source node
  | .arguments => argumentsOf source twin = argumentsOf source node
  | .argument => ∀ read rest,
      addArguments source read (twin :: rest) = addArguments source read (node :: rest)
  | .entry => ∀ read rest, addPairs source read (twin :: rest) = addPairs source read (node :: rest)
  | .block => blockParameters source twin.children = blockParameters source node.children ∧
      blockStatements source twin.children = blockStatements source node.children
  | .parameters => parameterNames source twin.children = parameterNames source node.children

variable {source}

theorem same_refl (role : Role) (node : Node) : role.Same source node node := by
  cases role with
  | argument | entry => exact fun _ _ => rfl
  | block => exact ⟨rfl, rfl⟩
  | _ => exact rfl

theorem same_symm {role : Role} {node twin : Node} (same : role.Same source node twin) :
    role.Same source twin node := by
  cases role with
  | argument | entry => exact fun read rest => (same read rest).symm
  | block => exact ⟨same.1.symm, same.2.symm⟩
  | statement | value | arguments | parameters => exact Eq.symm same

theorem same_trans {role : Role} {node twin other : Node} (first : role.Same source node twin)
    (second : role.Same source twin other) : role.Same source node other := by
  cases role with
  | argument | entry => exact fun read rest => (second read rest).trans (first read rest)
  | block => exact ⟨second.1.trans first.1, second.2.trans first.2⟩
  | statement | value | arguments | parameters => exact Eq.trans second first

end Role

/-! ## Part 2 — children that are read alike -/

variable {source : ByteArray} {commented : Prop} {roles : Node → List Role}

/-- Two children with the same frame that are read in the same way in the roles of the first. -/
structure Twins (source : ByteArray) (roles : Node → List Role) (child twin : Node) : Prop where
  framed : twin = child.withChildren twin.children
  same : ∀ role ∈ roles child, role.Same source child twin

/-- The second children are twins of the first, in order. There may be comments among them, if these
are allowed. -/
inductive Alike (source : ByteArray) (commented : Prop) (roles : Node → List Role) :
    List Node → List Node → Prop
  | nil : Alike source commented roles [] []
  | keep {child twin : Node} {rest others : List Node} : Twins source roles child twin →
      Alike source commented roles rest others →
      Alike source commented roles (child :: rest) (twin :: others)
  | insert {added : Node} {rest others : List Node} : commented → added.IsComment →
      Alike source commented roles rest others → Alike source commented roles rest (added :: others)

namespace Twins

variable {child twin : Node}

theorem refl (child : Node) : Twins source roles child child :=
  ⟨child.withChildren_children.symm, fun role _ => role.same_refl child⟩

theorem kind (twins : Twins source roles child twin) : twin.kind = child.kind := by
  rw [twins.framed, Node.withChildren_kind]

theorem named (twins : Twins source roles child twin) : twin.named = child.named := by
  rw [twins.framed, Node.withChildren_named]

theorem text (twins : Twins source roles child twin) : twin.text source = child.text source := by
  rw [twins.framed, Node.withChildren_text]

end Twins

namespace Alike

theorem refl (children : List Node) : Alike source commented roles children children := by
  induction children with
  | nil => exact .nil
  | cons child rest ih => exact .keep (.refl child) ih

/-- One child is replaced by its twin. -/
theorem replace {child twin : Node} (twins : Twins source roles child twin)
    (before after : List Node) :
    Alike source commented roles (before ++ child :: after) (before ++ twin :: after) := by
  induction before with
  | nil => exact .keep twins (refl after)
  | cons first before ih => exact .keep (.refl first) ih

/-- A comment is inserted. -/
theorem comment (allowed : commented) {added : Node} (comment : added.IsComment)
    (before after : List Node) :
    Alike source commented roles (before ++ after) (before ++ added :: after) := by
  induction before with
  | nil => exact .insert allowed comment (refl after)
  | cons first before ih => exact .keep (.refl first) ih

end Alike

theorem Node.IsComment.isIn {node : Node} (comment : node.IsComment) (field : Field) :
    node.isIn field = false := by
  rw [Node.isIn, comment.field]
  rfl

theorem Node.IsComment.collect {node : Node} (comment : node.IsComment) :
    Source.collect source node = [] := by
  obtain ⟨kind, start, stop, row, field, named, children⟩ := node
  obtain rfl : kind = .comment := comment.kind
  simp [Source.collect, Kind.holdsStatements]

end RouteTable.Source
