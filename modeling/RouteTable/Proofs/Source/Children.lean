/-
**What is read of the children of a node.**

It is read of those that are selected by their frames, of the first or of all of them. Of alike
children the same is read, and comments among them are passed over, since no selection takes them.
Quoted texts and parentheses take every named child, and read the same where there are no comments.

* `Alike.flatMap_eq`, `Alike.map_filter_eq`: what is read of each child, and of each one selected;
* `Alike.collectAll_eq`, `Alike.values_eq`, `Alike.addPairs_eq`, `Alike.addArguments_eq`:
  statements, items, options and arguments;
* `Alike.valueWhere_eq`, `Alike.argumentsWhere_eq`, `Alike.blockWhere_eq`: the first child selected;
* `Alike.quotedContent_eq`, `Alike.onlyValue?_eq`: all named children, without comments.
-/

import RouteTable.Proofs.Source.Roles

namespace RouteTable.Source

variable {source : ByteArray} {commented : Prop} {roles : Node → List Role}

/-! ## Part 1 — selected children -/

/-- Nodes are selected by their frames alone, and no comment is selected where there are some. -/
structure Selects (commented : Prop) (wanted : Node → Bool) : Prop where
  framed : ∀ (node : Node) (children : List Node), wanted (node.withChildren children) = wanted node
  comment : commented → ∀ node : Node, node.IsComment → wanted node = false

section Lists

variable {β : Type} {children others : List Node}
  (alike : Alike source commented roles children others)

include alike

/-- What is read of each child is read of its twin, if nothing is read of comments. -/
theorem Alike.flatMap_eq {read : Node → List β}
    (same : ∀ {child twin : Node}, Twins source roles child twin → read twin = read child)
    (skips : commented → ∀ node : Node, node.IsComment → read node = []) :
    others.flatMap read = children.flatMap read := by
  induction alike with
  | nil => rfl
  | keep twins _ ih => rw [List.flatMap_cons, List.flatMap_cons, same twins, ih]
  | insert allowed comment _ ih =>
    rw [List.flatMap_cons, skips allowed _ comment, List.nil_append, ih]

variable {wanted : Node → Bool} (selects : Selects commented wanted)

include selects

/-- What is read of each selected child is read of its twin. -/
theorem Alike.map_filter_eq {read : Node → β}
    (same : ∀ {child twin : Node}, wanted child = true → Twins source roles child twin →
      read twin = read child) :
    (others.filter wanted).map read = (children.filter wanted).map read := by
  have asFlatMap (nodes : List Node) : (nodes.filter wanted).map read =
      nodes.flatMap fun node => if wanted node then [read node] else [] := by
    induction nodes with
    | nil => rfl
    | cons node rest ih =>
      rw [List.flatMap_cons, ← ih]
      by_cases taken : wanted node = true
      · rw [List.filter_cons_of_pos taken, if_pos taken, List.map_cons, List.singleton_append]
      · rw [List.filter_cons_of_neg taken, if_neg taken, List.nil_append]
  rw [asFlatMap, asFlatMap]
  refine alike.flatMap_eq (fun {child twin} twins => ?_) fun allowed node comment => ?_
  · have framed : wanted twin = wanted child := by rw [twins.framed, selects.framed]
    rw [framed]
    by_cases taken : wanted child = true
    · rw [if_pos taken, if_pos taken, same taken twins]
    · rw [if_neg taken, if_neg taken]
  · rw [selects.comment allowed node comment]
    rfl

/-- What is read of the first selected child is read of its twin. -/
theorem Alike.map_find?_eq {read : Node → β}
    (same : ∀ {child twin : Node}, wanted child = true → Twins source roles child twin →
      read twin = read child) :
    (others.find? wanted).map read = (children.find? wanted).map read := by
  rw [← List.head?_filter, ← List.head?_filter, ← List.head?_map, ← List.head?_map,
    alike.map_filter_eq selects same]

theorem Alike.length_filter_eq :
    (others.filter wanted).length = (children.filter wanted).length := by
  have same : (others.filter wanted).map (fun _ => ()) = (children.filter wanted).map fun _ => () :=
    alike.map_filter_eq selects fun _ _ => rfl
  simpa using congrArg List.length same

theorem Alike.any_eq : others.any wanted = children.any wanted := by
  have same : (others.find? wanted).map (fun _ => ()) = (children.find? wanted).map fun _ => () :=
    alike.map_find?_eq selects fun _ _ => rfl
  simpa only [Option.isSome_map, List.isSome_find?] using congrArg Option.isSome same

end Lists

/-! ### Selections -/

theorem selects_isIn (field : Field) : Selects commented (Node.isIn field) :=
  ⟨fun _ _ => rfl, fun _ _ comment => comment.isIn field⟩

theorem selects_marksArguments (children : List Node) :
    Selects commented (marksArguments children) := by
  refine ⟨fun _ _ => rfl, fun _ node comment => ?_⟩
  simp [marksArguments, comment.isIn, comment.kind]

theorem selects_marksBlock (children : List Node) : Selects commented (marksBlock children) := by
  refine ⟨fun _ _ => rfl, fun _ node comment => ?_⟩
  simp [marksBlock, comment.isIn, comment.kind]

/-- The named nodes of a kind other than comments. -/
theorem selects_kind {kind : Kind} (other : kind ≠ .comment) :
    Selects commented fun node => node.named && node.kind = kind := by
  refine ⟨fun _ _ => rfl, fun _ node comment => ?_⟩
  simp [comment.kind, other.symm]

/-- Where there are no comments, the named nodes. -/
theorem selects_named (plain : ¬commented) : Selects commented Node.named :=
  ⟨fun _ _ => rfl, fun allowed => absurd allowed plain⟩

/-! ## Part 2 — what is read of children -/

section Equations

variable (source : ByteArray) (children : List Node)

theorem collectAll_eq_flatMap : collectAll source children =
    children.flatMap fun child => if child.named then collect source child else [] := by
  induction children with
  | nil => rfl
  | cons child rest ih => rw [collectAll, ih, List.flatMap_cons]

theorem blockStatements_eq_flatMap : blockStatements source children =
    children.flatMap fun child =>
      if child.named && child.kind ≠ .blockParameters then collect source child else [] := by
  induction children with
  | nil => rfl
  | cons child rest ih => rw [blockStatements, ih, List.flatMap_cons]

theorem values_eq_flatMap : values source children =
    children.flatMap fun child =>
      if child.named && child.kind ≠ .comment then [value source child] else [] := by
  induction children with
  | nil => rfl
  | cons child rest ih =>
    rw [values, ih, List.flatMap_cons]
    split <;> rfl

theorem collectField_eq (field : Field) : collectField source field children =
    ((findField? field children).map (collect source)).getD [] := by
  induction children with
  | nil => rfl
  | cons child rest ih =>
    rw [collectField, findField?, List.find?_cons]
    cases child.isIn field with
    | true => rfl
    | false => exact ih

theorem valueWhere_eq (wanted : Node → Bool) :
    valueWhere source wanted children = (children.find? wanted).map (value source) := by
  induction children with
  | nil => rfl
  | cons child rest ih =>
    rw [valueWhere, List.find?_cons]
    cases wanted child with
    | true => rfl
    | false => exact ih

theorem argumentsWhere_eq (wanted : Node → Bool) :
    argumentsWhere source wanted children = (children.find? wanted).map (argumentsOf source) := by
  induction children with
  | nil => rfl
  | cons child rest ih =>
    rw [argumentsWhere, List.find?_cons]
    cases wanted child with
    | true => rfl
    | false => exact ih

/-- The block that a node stands for. -/
def blockOf (node : Node) : Block where
  parameters := some (blockParameters source node.children)
  body := some ((blockStatements source node.children).map Value.call)

theorem blockWhere_eq (wanted : Node → Bool) :
    blockWhere source wanted children = (children.find? wanted).map (blockOf source) := by
  induction children with
  | nil => rfl
  | cons child rest ih =>
    obtain ⟨kind, start, stop, row, field, named, inner⟩ := child
    rw [blockWhere, List.find?_cons]
    cases wanted ⟨kind, start, stop, row, field, named, inner⟩ with
    | true => rfl
    | false => exact ih

/-- The parameters of the last list of parameters. -/
theorem blockParameters_eq : blockParameters source children =
    (((children.filter fun child => child.named && child.kind = .blockParameters).map fun child =>
      parameterNames source child.children).getLast?).getD [] := by
  unfold blockParameters
  rw [List.getLast?_map]
  generalize List.getLast? _ = last
  cases last <;> rfl

/-- The value of a named child, if there is one such child and no more. -/
theorem onlyValue?_eq : onlyValue? source children =
    if (children.filter Node.named).length = 1 then
      ((children.filter Node.named).map (value source)).head?
    else none := by
  induction children with
  | nil => rfl
  | cons child rest ih =>
    rw [onlyValue?]
    by_cases seen : child.named = true
    · rw [if_pos seen, List.filter_cons_of_pos seen, List.length_cons, List.map_cons,
        List.head?_cons]
      by_cases alone : rest.filter Node.named = []
      · have none : ¬rest.any Node.named = true := by simpa using alone
        rw [if_neg none, alone]
        rfl
      · have further : rest.any Node.named = true := by simpa using alone
        have several : ¬(rest.filter Node.named).length + 1 = 1 := by simpa using alone
        rw [if_pos further, if_neg several]
    · rw [if_neg seen, List.filter_cons_of_neg seen, ih]

end Equations

section Readings

variable {children others : List Node} (alike : Alike source commented roles children others)

include alike

/-- The first node in a field is there for both, with the same text, or it is missing in both. -/
theorem Alike.field_cases (field : Field) :
    findField? field others = none ∧ findField? field children = none ∨
      ∃ node twin, findField? field children = some node ∧ findField? field others = some twin ∧
        twin.text source = node.text source := by
  have texts : (findField? field others).map (Node.text source) =
      (findField? field children).map (Node.text source) :=
    alike.map_find?_eq (selects_isIn field) fun _ twins => twins.text
  cases found : findField? field children with
  | none =>
    rw [found, Option.map_none, Option.map_eq_none_iff] at texts
    exact .inl ⟨texts, rfl⟩
  | some node =>
    rw [found] at texts
    obtain ⟨twin, other, text⟩ := Option.map_eq_some_iff.mp texts
    exact .inr ⟨node, twin, rfl, other, text⟩

theorem Alike.marksArguments_eq : marksArguments others = marksArguments children := by
  funext child
  rw [marksArguments, marksArguments, alike.any_eq (selects_isIn _)]

theorem Alike.marksBlock_eq : marksBlock others = marksBlock children := by
  funext child
  rw [marksBlock, marksBlock, alike.any_eq (selects_isIn _)]

theorem Alike.endsArguments_eq : endsArguments others = endsArguments children := by
  have selects : Selects commented fun node => !(!node.named || node.kind.isNoArgument) := by
    refine ⟨fun _ _ => rfl, fun _ node comment => ?_⟩
    rw [comment.kind]
    simp [Kind.isNoArgument]
  rw [endsArguments, endsArguments, List.all_eq_not_any_not, List.all_eq_not_any_not,
    alike.any_eq selects]

theorem Alike.parameterNames_eq :
    parameterNames source others = parameterNames source children :=
  alike.map_filter_eq (selects_kind (by decide)) fun _ twins => twins.text

theorem Alike.blockParameters_eq
    (read : ∀ child, child.named = true → child.kind = .blockParameters →
      .parameters ∈ roles child) :
    blockParameters source others = blockParameters source children := by
  rw [Source.blockParameters_eq, Source.blockParameters_eq]
  congr 2
  refine alike.map_filter_eq (selects_kind (by decide)) fun {child twin} taken twins => ?_
  simp only [Bool.and_eq_true, decide_eq_true_eq] at taken
  exact twins.same _ (read child taken.1 taken.2)

theorem Alike.collectAll_eq (read : ∀ child, child.named = true → .statement ∈ roles child) :
    collectAll source others = collectAll source children := by
  rw [collectAll_eq_flatMap, collectAll_eq_flatMap]
  refine alike.flatMap_eq (fun {child twin} twins => ?_) fun _ node comment => ?_
  · rw [twins.named]
    by_cases seen : child.named = true
    · rw [if_pos seen, if_pos seen]
      exact twins.same _ (read child seen)
    · rw [if_neg seen, if_neg seen]
  · rw [comment.collect, ite_self]

theorem Alike.blockStatements_eq
    (read : ∀ child, child.named = true → child.kind ≠ .blockParameters →
      .statement ∈ roles child) :
    blockStatements source others = blockStatements source children := by
  rw [blockStatements_eq_flatMap, blockStatements_eq_flatMap]
  refine alike.flatMap_eq (fun {child twin} twins => ?_) fun _ node comment => ?_
  · rw [twins.named, twins.kind]
    split
    · next seen =>
      simp only [Bool.and_eq_true, decide_eq_true_eq] at seen
      exact twins.same _ (read child seen.1 seen.2)
    · rfl
  · rw [comment.collect, ite_self]

theorem Alike.values_eq
    (read : ∀ child, child.named = true → child.kind ≠ .comment → .value ∈ roles child) :
    values source others = values source children := by
  rw [values_eq_flatMap, values_eq_flatMap]
  refine alike.flatMap_eq (fun {child twin} twins => ?_) fun _ node comment => ?_
  · rw [twins.named, twins.kind]
    split
    · next seen =>
      simp only [Bool.and_eq_true, decide_eq_true_eq] at seen
      have same : value source twin = value source child :=
        twins.same _ (read child seen.1 seen.2)
      rw [same]
    · rfl
  · simp [comment.kind]

theorem Alike.collectField_eq {field : Field}
    (read : ∀ child, child.isIn field = true → .statement ∈ roles child) :
    collectField source field others = collectField source field children := by
  rw [Source.collectField_eq, Source.collectField_eq]
  exact congrArg (Option.getD · []) <| alike.map_find?_eq (selects_isIn field)
    fun found twins => twins.same _ (read _ found)

/-- Entries of a hash are read alike after whatever was read before them. -/
theorem Alike.addPairs_eq (read : ∀ child, .entry ∈ roles child) (before : Assoc Atom Value) :
    addPairs source before others = addPairs source before children := by
  induction alike generalizing before with
  | nil => rfl
  | @keep child twin rest others twins _ ih =>
    have same := (twins.same _ (read child) : ∀ before rest,
      addPairs source before (twin :: rest) = addPairs source before (child :: rest))
    rw [same]
    obtain ⟨kind, start, stop, row, field, named, children⟩ := child
    rw [addPairs, addPairs]
    split
    · exact ih _
    · exact ih _
  | @insert added rest others _ comment _ ih =>
    obtain ⟨kind, start, stop, row, field, named, children⟩ := added
    obtain rfl : kind = .comment := comment.kind
    rw [addPairs, if_neg (by simp), ih]

/-- Arguments are read alike after whatever was read before them. -/
theorem Alike.addArguments_eq (read : ∀ child, .argument ∈ roles child) (before : Arguments) :
    addArguments source before others = addArguments source before children := by
  induction alike generalizing before with
  | nil => rfl
  | @keep child twin rest others twins alike ih =>
    have same := (twins.same _ (read child) : ∀ before rest,
      addArguments source before (twin :: rest) =
        addArguments source before (child :: rest))
    rw [same]
    obtain ⟨kind, start, stop, row, field, named, children⟩ := child
    rw [addArguments, addArguments]
    split
    · exact ih _
    · split
      · exact ih _
      · rw [alike.endsArguments_eq]
        dsimp only
        split
        · rfl
        · exact ih _
      · exact ih _
  | @insert added rest others _ comment _ ih =>
    obtain ⟨kind, start, stop, row, field, named, children⟩ := added
    obtain rfl : kind = .comment := comment.kind
    rw [addArguments, if_pos (by simp [Kind.isNoArgument]), ih]

variable {wanted : Node → Bool} (selects : Selects commented wanted)

include selects

theorem Alike.valueWhere_eq (read : ∀ child, wanted child = true → .value ∈ roles child) :
    valueWhere source wanted others = valueWhere source wanted children := by
  rw [Source.valueWhere_eq, Source.valueWhere_eq]
  exact alike.map_find?_eq selects fun found twins => twins.same _ (read _ found)

theorem Alike.argumentsWhere_eq (read : ∀ child, wanted child = true → .arguments ∈ roles child) :
    argumentsWhere source wanted others = argumentsWhere source wanted children := by
  rw [Source.argumentsWhere_eq, Source.argumentsWhere_eq]
  exact alike.map_find?_eq selects fun found twins => twins.same _ (read _ found)

theorem Alike.blockWhere_eq (read : ∀ child, wanted child = true → .block ∈ roles child) :
    blockWhere source wanted others = blockWhere source wanted children := by
  rw [Source.blockWhere_eq, Source.blockWhere_eq]
  refine alike.map_find?_eq selects fun {child twin} found twins => ?_
  obtain ⟨parameters, statements⟩ := twins.same _ (read child found)
  rw [blockOf, blockOf, parameters, statements]

end Readings

/-! ## Part 3 — children without comments -/

section Plain

variable {children others : List Node} (alike : Alike source commented roles children others)
  (plain : ¬commented)

include alike plain

theorem Alike.quotedContent_eq : quotedContent source others = quotedContent source children := by
  have texts : (others.filter Node.named).map (Node.text source) =
      (children.filter Node.named).map (Node.text source) :=
    alike.map_filter_eq (selects_named plain) fun _ twins => twins.text
  have kinds : (others.filter Node.named).map Node.kind =
      (children.filter Node.named).map Node.kind :=
    alike.map_filter_eq (selects_named plain) fun _ twins => twins.kind
  have interpolated := congrArg (List.any · (· = .interpolation)) kinds
  simp only [List.any_map] at interpolated
  exact Prod.ext (congrArg String.join texts) interpolated

/-- The only named child is read alike. -/
theorem Alike.onlyValue?_eq
    (read : (children.filter Node.named).length = 1 → ∀ child, child.named = true →
      .value ∈ roles child) :
    onlyValue? source others = onlyValue? source children := by
  rw [Source.onlyValue?_eq, Source.onlyValue?_eq, alike.length_filter_eq (selects_named plain)]
  split
  · next single =>
    have same : (others.filter Node.named).map (value source) =
        (children.filter Node.named).map (value source) :=
      alike.map_filter_eq (selects_named plain) fun seen twins =>
        twins.same _ (read single _ seen)
    rw [same]
  · rfl

end Plain

end RouteTable.Source
