/-
**Nodes with alike children are read in the same way.**

A call, a pair, a statement, a value and an argument are put together from what is read of their
children, so nodes with alike children are read in the same way in every role. Comments among the
children are passed over, but for quoted texts and parentheses that count as a value.

* `Alike.assembleCall_eq`, `Alike.putPair_eq`: what is read of the parts of calls and pairs;
* `Role.same_of_alike`: nodes with alike children are read in the same way in every role;
* `SeesAlike.of_alike`: without comments all kinds of nodes see alike children alike.
-/

import RouteTable.Proofs.Source.Children

namespace RouteTable.Source

variable {source : ByteArray} {commented : Prop} {roles : Node → List Role}

/-! ## Part 1 — parts of calls and pairs -/

/-- Parts of a call are read alike, and so is the call. -/
theorem Alike.assembleCall_eq {children others : List Node}
    (alike : Alike source commented roles children others)
    (read : ∀ child, ∀ role ∈ Role.ofCallPart child, role ∈ roles child) (row : Nat) :
    assembleCall source row others (valueWhere source (Node.isIn .receiver) others)
        (argumentsWhere source (marksArguments others) others)
        (blockWhere source (marksBlock others) others) =
      assembleCall source row children
        (valueWhere source (Node.isIn .receiver) children)
        (argumentsWhere source (marksArguments children) children)
        (blockWhere source (marksBlock children) children) := by
  have receiver (child : Node) (found : child.isIn .receiver = true) : .value ∈ roles child := by
    refine read child _ ?_
    simp [Role.ofCallPart, found]
  have arguments (child : Node) (found : marksArguments children child = true) :
      .arguments ∈ roles child := by
    refine read child _ ?_
    unfold marksArguments at found
    split at found
    · simp [Role.ofCallPart, found]
    · simp_all [Role.ofCallPart]
  have block (child : Node) (found : marksBlock children child = true) :
      .block ∈ roles child := by
    refine read child _ ?_
    unfold marksBlock at found
    split at found
    · simp [Role.ofCallPart, found]
    · simp_all [Role.ofCallPart, or_assoc]
  rw [alike.marksArguments_eq, alike.marksBlock_eq, alike.valueWhere_eq (selects_isIn _) receiver,
    alike.argumentsWhere_eq (selects_marksArguments children) arguments,
    alike.blockWhere_eq (selects_marksBlock children) block]
  unfold assembleCall
  rcases alike.field_cases .method with ⟨other, found⟩ | ⟨node, twin, found, other, text⟩
  · rw [other, found]
  · rw [other, found, Option.map_some, Option.map_some, text]

/-- Parts of a pair are read alike, and so is what the pair adds to options. -/
theorem Alike.putPair_eq {children others : List Node}
    (alike : Alike source commented roles children others)
    (read : ∀ child, ∀ role ∈ Role.ofPairPart child, role ∈ roles child)
    (before : Assoc Atom Value) :
    putPair source others (valueWhere source (Node.isIn .key) others)
        (valueWhere source (Node.isIn .value) others) before =
      putPair source children (valueWhere source (Node.isIn .key) children)
        (valueWhere source (Node.isIn .value) children) before := by
  have key (child : Node) (found : child.isIn .key = true) : .value ∈ roles child :=
    read child _ (by simp [Role.ofPairPart, found])
  have content (child : Node) (found : child.isIn .value = true) : .value ∈ roles child :=
    read child _ (by simp [Role.ofPairPart, found])
  rw [alike.valueWhere_eq (selects_isIn _) key, alike.valueWhere_eq (selects_isIn _) content]
  generalize valueWhere source (Node.isIn .key) children = key
  generalize valueWhere source (Node.isIn .value) children = content
  unfold putPair
  rcases alike.field_cases .key with ⟨other, found⟩ | ⟨node, twin, found, other, text⟩
  · rw [other, found]
  · rw [other, found]
    cases key with
    | none => rfl
    | some key =>
      cases content with
      | none => rfl
      | some content =>
        show before.put (keyOf key (twin.text source)) content = _
        rw [text]

/-! ## Part 2 — nodes -/

/-- The call that a call node stands for. -/
def callOf? (source : ByteArray) (node : Node) : Option Call :=
  assembleCall source node.row node.children (valueWhere source (Node.isIn .receiver) node.children)
    (argumentsWhere source (marksArguments node.children) node.children)
    (blockWhere source (marksBlock node.children) node.children)

/-- What a statement is collected from, by its kind. -/
theorem collect_eq (source : ByteArray) (node : Node) :
    collect source node =
      if node.kind = .call then (callOf? source node).toList
      else if node.kind.isBranch then
        collectField source .consequence node.children ++
          collectField source .alternative node.children
      else if node.kind.isModifier then collectField source .body node.children
      else if node.kind.holdsStatements then collectAll source node.children
      else if node.kind = .identifier then [bareCall (node.text source) node.row]
      else [] := by
  obtain ⟨kind, start, stop, row, field, named, children⟩ := node
  cases kind <;> rfl

section Nodes

variable {node : Node} {others : List Node}

theorem callOf?_eq_of_alike {roles : Node → List Role}
    (alike : Alike source commented roles node.children others)
    (read : ∀ child, ∀ role ∈ Role.ofCallPart child, role ∈ roles child) :
    callOf? source (node.withChildren others) = callOf? source node :=
  alike.assembleCall_eq read node.row

theorem collect_eq_of_alike
    (alike : Alike source commented (Role.inStatement node) node.children others) :
    collect source (node.withChildren others) = collect source node := by
  rw [collect_eq, collect_eq, Node.withChildren_kind]
  by_cases call : node.kind = .call
  · have read (child : Node) (role : Role) (part : role ∈ Role.ofCallPart child) :
        role ∈ Role.inStatement node child := by
      rwa [Role.inStatement, if_pos call]
    rw [if_pos call, if_pos call, callOf?_eq_of_alike alike read]
  rw [if_neg call, if_neg call]
  by_cases branch : node.kind.isBranch = true
  · have read (child : Node)
        (inside : (child.isIn .consequence || child.isIn .alternative) = true) :
        .statement ∈ Role.inStatement node child := by
      rw [Role.inStatement, if_neg call, if_pos branch, if_pos inside]
      exact List.mem_cons_self
    have consequence : collectField source .consequence others =
        collectField source .consequence node.children :=
      alike.collectField_eq fun child inside => read child (by rw [inside, Bool.true_or])
    have alternative : collectField source .alternative others =
        collectField source .alternative node.children :=
      alike.collectField_eq fun child inside => read child (by rw [inside, Bool.or_true])
    rw [if_pos branch, if_pos branch, ← consequence, ← alternative]
    rfl
  rw [if_neg branch, if_neg branch]
  by_cases modifier : node.kind.isModifier = true
  · have read (child : Node) (inside : child.isIn .body = true) :
        .statement ∈ Role.inStatement node child := by
      rw [Role.inStatement, if_neg call, if_neg branch, if_pos modifier, if_pos inside]
      exact List.mem_cons_self
    rw [if_pos modifier, if_pos modifier]
    exact alike.collectField_eq read
  rw [if_neg modifier, if_neg modifier]
  by_cases container : node.kind.holdsStatements = true
  · have read (child : Node) (seen : child.named = true) :
        .statement ∈ Role.inStatement node child := by
      rw [Role.inStatement, if_neg call, if_neg branch, if_neg modifier, container, seen]
      exact List.mem_cons_self
    rw [if_pos container, if_pos container]
    exact alike.collectAll_eq read
  rw [if_neg container, if_neg container]
  rfl

/-- Quoted texts and parentheses see every named child, comments too. -/
structure SeesAlike (source : ByteArray) (node : Node) (others : List Node) : Prop where
  quoted : node.kind = .string ∨ node.kind = .delimitedSymbol →
    quotedContent source others = quotedContent source node.children
  parentheses : node.kind = .parenthesized →
    onlyValue? source others = onlyValue? source node.children

theorem value_eq_of_alike
    (alike : Alike source commented (Role.inValue node) node.children others)
    (seen : SeesAlike source node others) :
    value source (node.withChildren others) = value source node := by
  obtain ⟨kind, start, stop, row, field, named, children⟩ := node
  show value source ⟨kind, start, stop, row, field, named, others⟩ = _
  cases kind with
  | call =>
    have same := callOf?_eq_of_alike alike fun child role part => part
    rw [value, value]
    exact congrArg (fun call => (Option.map Value.call call).getD
      (.atom (.expression (slice source start stop)))) same
  | array | symbolArray | stringArray =>
    have read (child : Node) (listed : child.named = true) (item : child.kind ≠ .comment) :
        Role.value ∈ if child.named && child.kind ≠ .comment then [Role.value] else [] := by
      rw [if_pos (by simp [listed, item])]
      exact List.mem_cons_self
    rw [value, value]
    exact congrArg Value.array (alike.values_eq read)
  | hash =>
    rw [value, value]
    exact congrArg Value.hash (alike.addPairs_eq (fun _ => List.mem_cons_self) [])
  | string =>
    have content : quotedContent source others = quotedContent source children :=
      seen.quoted (.inl rfl)
    rw [value, value, content]
  | delimitedSymbol =>
    have content : quotedContent source others = quotedContent source children :=
      seen.quoted (.inr rfl)
    rw [value, value, content]
  | parenthesized =>
    have only : onlyValue? source others = onlyValue? source children := seen.parentheses rfl
    rw [value, value, only]
  | _ => rfl

/-- An argument is read as a pair, as the options in a last hash or else as a value. -/
theorem argument_eq_of_alike
    (alike : Alike source commented (Role.argument.within node) node.children others)
    (seen : SeesAlike source node others) :
    Role.argument.Same source node (node.withChildren others) := by
  intro before rest
  by_cases pair : node.kind = .pair
  · have roles (child : Node) : Role.argument.within node child = Role.ofPairPart child :=
      if_pos pair
    have put := alike.putPair_eq fun child role part => (roles child).symm ▸ part
    obtain ⟨kind, start, stop, row, field, named, children⟩ := node
    obtain rfl : kind = .pair := pair
    show addArguments source before (⟨.pair, start, stop, row, field, named, others⟩ :: rest) = _
    rw [addArguments, addArguments]
    dsimp only
    rw [put before.options]
    rfl
  · have roles : Role.argument.within node = Role.inValue node :=
      funext fun child => if_neg pair
    rw [roles] at alike
    have same := value_eq_of_alike alike seen
    obtain ⟨kind, start, stop, row, field, named, children⟩ := node
    show addArguments source before (⟨kind, start, stop, row, field, named, others⟩ :: rest) = _
    change value source ⟨kind, start, stop, row, field, named, others⟩ = _ at same
    rw [addArguments, addArguments]
    split
    · rfl
    · split
      · exact absurd rfl pair
      · have options : addPairs source before.options others =
            addPairs source before.options children :=
          alike.addPairs_eq (fun _ => List.mem_cons_self) before.options
        rw [options]
        dsimp only
        rw [same]
      · dsimp only
        rw [same]

/-- **Nodes with alike children are read in the same way.** The children are alike in the roles that
follow from the role of the node; quoted texts and parentheses that count as a value are to see
them alike, too. -/
theorem Role.same_of_alike {role : Role}
    (alike : Alike source commented (role.within node) node.children others)
    (seen : role.readsValue = true → SeesAlike source node others) :
    role.Same source node (node.withChildren others) := by
  cases role with
  | statement => exact collect_eq_of_alike alike
  | value => exact value_eq_of_alike alike (seen rfl)
  | arguments =>
    obtain ⟨kind, start, stop, row, field, named, children⟩ := node
    exact alike.addArguments_eq (fun _ => List.mem_cons_self) {}
  | argument => exact argument_eq_of_alike alike (seen rfl)
  | entry =>
    intro before rest
    obtain ⟨kind, start, stop, row, field, named, children⟩ := node
    show addPairs source before (⟨kind, start, stop, row, field, named, others⟩ :: rest) = _
    rw [addPairs, addPairs]
    split
    · next pair =>
      simp only [Bool.and_eq_true, decide_eq_true_eq] at pair
      have roles (child : Node) :
          Role.entry.within ⟨kind, start, stop, row, field, named, children⟩ child =
            Role.ofPairPart child := if_pos pair.2
      exact congrArg (addPairs source · rest)
        (alike.putPair_eq (fun child role part => (roles child).symm ▸ part) before)
    · rfl
  | block =>
    have parameters (child : Node) (listed : child.named = true)
        (kind : child.kind = .blockParameters) : .parameters ∈ Role.block.within node child := by
      rw [Role.within, listed, kind]
      exact List.mem_cons_self
    have statements (child : Node) (listed : child.named = true)
        (kind : child.kind ≠ .blockParameters) : .statement ∈ Role.block.within node child := by
      rw [Role.within, listed, if_neg kind]
      exact List.mem_cons_self
    exact ⟨alike.blockParameters_eq parameters, alike.blockStatements_eq statements⟩
  | parameters => exact alike.parameterNames_eq

end Nodes

/-- Without comments all kinds of nodes see alike children alike. -/
theorem SeesAlike.of_alike {node : Node} {others : List Node} (plain : ¬commented) {role : Role}
    (counts : role.readsValue = true)
    (alike : Alike source commented (role.within node) node.children others) :
    SeesAlike source node others := by
  refine ⟨fun _ => alike.quotedContent_eq plain, fun parentheses => ?_⟩
  refine alike.onlyValue?_eq plain fun single child seen => ?_
  have value : .value ∈ Role.inValue node child := by
    rw [Role.inValue, parentheses]
    dsimp only
    rw [if_pos (by rw [seen, Node.namedChildren, single]; rfl)]
    exact List.mem_cons_self
  cases role with
  | value => exact value
  | argument =>
    have other : ¬node.kind = .pair := by
      rw [parentheses]
      decide
    rwa [Role.within, if_neg other]
  | _ => cases counts

end RouteTable.Source
