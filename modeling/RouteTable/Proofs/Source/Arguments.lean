/-
**What an argument list holds.**

An argument list holds positional arguments and options. Its options are the pairs that stand in it
and, if its last argument is a hash, the pairs in that hash; a hash before the last argument is
positional. The pairs are written into one map in source order, so that a hash at the end is the
same as the bare pairs in it, the last pair of a key gives the value and the first one the place.

* `argumentsOf_eq`: positional arguments and options of an argument list;
* `OpensHash`: a hash at the end is replaced by its children;
* `OpensHash.argumentsOf_eq`: nothing else is read of the argument list then;
* `Spells`: the ways in which the key of a pair spells a name;
* `callOf?_options`: the options of a call.
-/

import RouteTable.Proofs.Options
import RouteTable.Proofs.Source.Reading

namespace RouteTable.Source

variable {source : ByteArray}

/-! ## Part 1 — pairs -/

/-- Whether a node is one of the pairs among the children of its parent. -/
def Node.isPair (node : Node) : Bool := node.named && node.kind = .pair

/-- Whether a child of an argument list is an argument or an option. -/
def Node.isArgument (node : Node) : Bool := node.named && !node.kind.isNoArgument

/-- Whether a child of an argument list is an argument and no pair. -/
def Node.isPlain (node : Node) : Bool := node.isArgument && node.kind ≠ .pair

/-- The entry that a pair writes; a pair without a key or a value is incomplete and writes none. -/
def entryOf? (source : ByteArray) (pair : Node) : Option (Atom × Value) :=
  (findField? .key pair.children).bind fun key =>
    (findField? .value pair.children).map fun content =>
      (keyOf (value source key) (key.text source), value source content)

/-- The entries that pairs write, one after the other. -/
def entriesOf (source : ByteArray) (pairs : List Node) : List (Atom × Value) :=
  pairs.filterMap (entryOf? source)

theorem putPair_eq (source : ByteArray) (pair : Node) (read : Assoc Atom Value) :
    putPair source pair.children (valueWhere source (Node.isIn .key) pair.children)
        (valueWhere source (Node.isIn .value) pair.children) read =
      read.merge (entryOf? source pair).toList := by
  rw [valueWhere_eq, valueWhere_eq]
  change putPair source pair.children ((findField? .key pair.children).map (value source))
    ((findField? .value pair.children).map (value source)) read = _
  unfold putPair entryOf?
  cases findField? .key pair.children with
  | none => rfl
  | some key =>
    cases findField? .value pair.children with
    | none => rfl
    | some content => rfl

theorem merge_entriesOf_cons (read : Assoc Atom Value) (pair : Node) (rest : List Node) :
    (read.merge (entryOf? source pair).toList).merge (entriesOf source rest) =
      read.merge (entriesOf source (pair :: rest)) := by
  rw [entriesOf, entriesOf, List.filterMap_cons]
  cases entryOf? source pair with
  | none => rfl
  | some entry => rfl

/-- The pairs of a hash are written in order. -/
theorem addPairs_eq (read : Assoc Atom Value) (children : List Node) :
    addPairs source read children =
      read.merge (entriesOf source (children.filter Node.isPair)) := by
  induction children generalizing read with
  | nil => rfl
  | cons child rest ih =>
    have opened : addPairs source read (child :: rest) =
        if child.isPair then addPairs source (putPair source child.children
          (valueWhere source (Node.isIn .key) child.children)
          (valueWhere source (Node.isIn .value) child.children) read) rest
        else addPairs source read rest := by
      obtain ⟨kind, start, stop, row, field, named, children⟩ := child
      rw [addPairs]
      rfl
    rw [opened]
    by_cases pair : child.isPair = true
    · rw [if_pos pair, List.filter_cons_of_pos pair, ih, putPair_eq, merge_entriesOf_cons]
    · rw [if_neg pair, List.filter_cons_of_neg pair, ih]

/-! ## Part 2 — argument lists -/

/-- The hash that is the last argument of an argument list. -/
def trailingHash? (children : List Node) : Option Node :=
  (children.filter Node.isArgument).getLast?.filter fun last => last.kind = .hash

/-- The pairs that write the options of an argument list: the bare ones and then those in the hash
that is its last argument. -/
def optionPairs (children : List Node) : List Node :=
  children.filter Node.isPair ++
    ((trailingHash? children).map fun hash => hash.children.filter Node.isPair).getD []

/-- The positional arguments of an argument list: all but the pairs and a hash at the end. -/
def positionalNodes (children : List Node) : List Node :=
  if (trailingHash? children).isSome then (children.filter Node.isPlain).dropLast
  else children.filter Node.isPlain

theorem endsArguments_iff {children : List Node} :
    endsArguments children = true ↔ children.filter Node.isArgument = [] := by
  rw [endsArguments, List.all_eq_true, List.filter_eq_nil_iff]
  refine forall₂_congr fun node _ => ?_
  rw [Node.isArgument]
  cases node.named <;> simp

theorem Node.isArgument_of_isPair {node : Node} (pair : node.isPair = true) :
    node.isArgument = true := by
  simp only [isPair, Bool.and_eq_true, decide_eq_true_eq] at pair
  simp [isArgument, pair, Kind.isNoArgument]

theorem Node.isArgument_of_isPlain {node : Node} (plain : node.isPlain = true) :
    node.isArgument = true :=
  (Bool.and_eq_true_iff.mp plain).1

/-- Where no argument follows, there is neither a pair nor a positional argument. -/
theorem filter_eq_nil_of_ends {children : List Node} (ends : endsArguments children = true)
    {wanted : Node → Bool} (counts : ∀ {node : Node}, wanted node = true → node.isArgument = true) :
    children.filter wanted = [] := by
  rw [List.filter_eq_nil_iff]
  intro node inside found
  exact List.filter_eq_nil_iff.mp (endsArguments_iff.mp ends) node inside (counts found)

section Cons

variable {child : Node} {rest : List Node}

/-- What is no argument plays no part. -/
theorem trailingHash?_cons_skip (skipped : ¬child.isArgument = true) :
    trailingHash? (child :: rest) = trailingHash? rest := by
  rw [trailingHash?, trailingHash?, List.filter_cons_of_neg skipped]

/-- An argument is a hash at the end only if no argument follows. -/
theorem trailingHash?_cons_keep (inner : child.kind = .hash → endsArguments rest = false) :
    trailingHash? (child :: rest) = trailingHash? rest := by
  by_cases listed : child.isArgument = true
  · rw [trailingHash?, trailingHash?, List.filter_cons_of_pos listed, List.getLast?_cons]
    cases following : (rest.filter Node.isArgument).getLast? with
    | some last => rfl
    | none =>
      -- then the child is the last argument, and no hash
      have ends := endsArguments_iff.mpr (List.getLast?_eq_none_iff.mp following)
      have other : child.kind ≠ .hash := fun hash => by simp [inner hash] at ends
      simp [Option.filter, other]
  · exact trailingHash?_cons_skip listed

theorem optionPairs_cons (same : trailingHash? (child :: rest) = trailingHash? rest) :
    optionPairs (child :: rest) = (if child.isPair then [child] else []) ++ optionPairs rest := by
  rw [optionPairs, optionPairs, same, ← List.append_assoc]
  congr 1
  by_cases pair : child.isPair = true
  · rw [List.filter_cons_of_pos pair, if_pos pair, List.singleton_append]
  · rw [List.filter_cons_of_neg pair, if_neg pair, List.nil_append]

theorem positionalNodes_cons (same : trailingHash? (child :: rest) = trailingHash? rest) :
    positionalNodes (child :: rest) =
      (if child.isPlain then [child] else []) ++ positionalNodes rest := by
  unfold positionalNodes
  rw [same]
  by_cases plain : child.isPlain = true
  · rw [if_pos plain, List.filter_cons_of_pos plain, List.singleton_append]
    cases found : trailingHash? rest with
    | none => rfl
    | some last =>
      -- the hash at the end is left in the rest
      obtain ⟨ends, hash⟩ := Option.filter_eq_some_iff.mp found
      obtain ⟨inside, listed⟩ := List.mem_filter.mp (List.mem_of_getLast? ends)
      have other : last.isPlain = true := by
        simp [Node.isPlain, listed, of_decide_eq_true hash]
      exact List.dropLast_cons_of_ne_nil
        (List.ne_nil_of_mem (List.mem_filter.mpr ⟨inside, other⟩))
  · rw [if_neg plain, List.filter_cons_of_neg plain, List.nil_append]

end Cons

section Last

variable (before : List Node) {hash : Node} {after : List Node} (listed : hash.isArgument = true)
  (kind : hash.kind = .hash) (ends : endsArguments after = true)

include listed kind ends

theorem trailingHash?_append_last : trailingHash? (before ++ hash :: after) = some hash := by
  rw [trailingHash?, List.filter_append, List.filter_cons_of_pos listed, endsArguments_iff.mp ends,
    List.getLast?_concat]
  simp [Option.filter, kind]

theorem optionPairs_append_last : optionPairs (before ++ hash :: after) =
    before.filter Node.isPair ++ hash.children.filter Node.isPair := by
  have bare : ¬hash.isPair = true := by simp [Node.isPair, kind]
  rw [optionPairs, trailingHash?_append_last before listed kind ends, List.filter_append,
    List.filter_cons_of_neg bare, filter_eq_nil_of_ends ends Node.isArgument_of_isPair,
    List.append_nil]
  rfl

theorem positionalNodes_append_last :
    positionalNodes (before ++ hash :: after) = before.filter Node.isPlain := by
  have plain : hash.isPlain = true := by simp [Node.isPlain, listed, kind]
  rw [positionalNodes, trailingHash?_append_last before listed kind ends, List.filter_append,
    List.filter_cons_of_pos plain, filter_eq_nil_of_ends ends Node.isArgument_of_isPlain,
    Option.isSome_some, if_pos rfl, List.dropLast_concat]

end Last

/-- One child of an argument list after the other. -/
theorem addArguments_cons (read : Arguments) (child : Node) (rest : List Node) :
    addArguments source read (child :: rest) =
      if ¬child.isArgument = true then addArguments source read rest
      else if child.kind = .pair then
        addArguments source
          { read with options := read.options.merge (entryOf? source child).toList } rest
      else if child.kind = .hash ∧ endsArguments rest = true then
        { read with options := addPairs source read.options child.children }
      else
        addArguments source { read with positional := read.positional ++ [value source child] }
          rest := by
  obtain ⟨kind, start, stop, row, field, named, children⟩ := child
  rw [addArguments]
  have listed : Node.isArgument ⟨kind, start, stop, row, field, named, children⟩ =
      !(!named || kind.isNoArgument) := by
    rw [Bool.not_or, Bool.not_not]
    rfl
  rw [listed]
  by_cases skipped : (!named || kind.isNoArgument) = true
  · rw [if_pos skipped, if_pos (by simp [skipped])]
  · rw [if_neg skipped, if_neg (by simpa using skipped)]
    cases kind with
    | pair =>
      exact congrArg (fun options => addArguments source { read with options } rest)
        (putPair_eq source ⟨.pair, start, stop, row, field, named, children⟩ read.options)
    | hash =>
      by_cases ends : endsArguments rest = true
      · exact (if_pos ends).trans (if_pos ⟨rfl, ends⟩).symm
      · exact (if_neg ends).trans (if_neg fun both => ends both.2).symm
    | _ => rfl

theorem addArguments_eq (read : Arguments) (children : List Node) :
    addArguments source read children =
      { positional := read.positional ++ (positionalNodes children).map (value source)
        options := read.options.merge (entriesOf source (optionPairs children)) } := by
  induction children generalizing read with
  | nil =>
    simp [addArguments, positionalNodes, trailingHash?, optionPairs, entriesOf, Assoc.merge]
  | cons child rest ih =>
    rw [addArguments_cons]
    by_cases listed : child.isArgument = true
    · rw [if_neg (not_not_intro listed)]
      by_cases pair : child.kind = .pair
      · -- a pair among the arguments
        have same : trailingHash? (child :: rest) = trailingHash? rest :=
          trailingHash?_cons_keep fun hash => absurd (pair.symm.trans hash) (by decide)
        have isPair : child.isPair = true := by
          simp [Node.isPair, pair, (Bool.and_eq_true_iff.mp listed).1]
        have mixed : ¬child.isPlain = true := by simp [Node.isPlain, pair]
        rw [if_pos pair, ih, optionPairs_cons same, positionalNodes_cons same, if_pos isPair,
          if_neg mixed, merge_entriesOf_cons]
        rfl
      · have bare : ¬child.isPair = true := by simp [Node.isPair, pair]
        have plain : child.isPlain = true := by simp [Node.isPlain, listed, pair]
        rw [if_neg pair]
        by_cases last : child.kind = .hash ∧ endsArguments rest = true
        · -- a hash at the end
          obtain ⟨hash, ends⟩ := last
          have pairs : optionPairs (child :: rest) = child.children.filter Node.isPair :=
            optionPairs_append_last [] listed hash ends
          have none : positionalNodes (child :: rest) = [] :=
            positionalNodes_append_last [] listed hash ends
          rw [if_pos ⟨hash, ends⟩, pairs, none, addPairs_eq, List.map_nil, List.append_nil]
        · -- a positional argument
          have same : trailingHash? (child :: rest) = trailingHash? rest :=
            trailingHash?_cons_keep fun hash => by simpa [hash] using last
          rw [if_neg last, ih, optionPairs_cons same, positionalNodes_cons same, if_neg bare,
            if_pos plain]
          simp
    · have same : trailingHash? (child :: rest) = trailingHash? rest :=
        trailingHash?_cons_skip listed
      have bare : ¬child.isPair = true := mt Node.isArgument_of_isPair listed
      have mixed : ¬child.isPlain = true := mt Node.isArgument_of_isPlain listed
      rw [if_pos listed, ih, optionPairs_cons same, positionalNodes_cons same, if_neg bare,
        if_neg mixed]
      rfl

/-- **What an argument list holds**: its positional arguments, and the options that its pairs
write. -/
theorem argumentsOf_eq (source : ByteArray) (list : Node) :
    argumentsOf source list =
      { positional := (positionalNodes list.children).map (value source)
        options := .ofEntries (entriesOf source (optionPairs list.children)) } := by
  obtain ⟨kind, start, stop, row, field, named, children⟩ := list
  exact addArguments_eq {} children

/-! ## Part 3 — a hash at the end -/

/-- Hashes, pairs and what is no argument give no statement. -/
def Kind.isSilent : Kind → Bool
  | .hash | .pair => true
  | kind => kind.isNoArgument

theorem Kind.isSilent_of_isNoArgument {kind : Kind} (skipped : kind.isNoArgument = true) :
    kind.isSilent = true := by
  cases kind with
  | blockArgument | splatArgument | hashSplatArgument | comment => rfl
  | _ => cases skipped

theorem collect_eq_nil {node : Node} (silent : node.kind.isSilent = true) :
    collect source node = [] := by
  obtain ⟨kind, start, stop, row, field, named, children⟩ := node
  change kind.isSilent = true at silent
  cases kind with
  | hash | pair | blockArgument | splatArgument | hashSplatArgument | comment => rfl
  | _ => cases silent

/-- In a block, such nodes are passed over. -/
theorem block_silent (source : ByteArray) {run : List Node}
    (silent : ∀ child ∈ run, child.named = true → child.kind.isSilent = true)
    (before after : List Node) :
    blockParameters source (before ++ run ++ after) = blockParameters source (before ++ after) ∧
      blockStatements source (before ++ run ++ after) =
        blockStatements source (before ++ after) := by
  constructor
  · have none : run.filter (fun child => child.named && child.kind = .blockParameters) = [] := by
      rw [List.filter_eq_nil_iff]
      intro child inside parameters
      simp only [Bool.and_eq_true, decide_eq_true_eq] at parameters
      have other := silent child inside parameters.1
      rw [parameters.2] at other
      cases other
    unfold blockParameters
    rw [List.filter_append, List.filter_append, none, List.append_nil, List.filter_append]
  · have none : run.flatMap (fun child =>
          if child.named && child.kind ≠ .blockParameters then collect source child else []) =
        [] := by
      rw [List.flatMap_eq_nil_iff]
      intro child inside
      split
      · next statement =>
        exact collect_eq_nil (silent child inside (Bool.and_eq_true_iff.mp statement).1)
      · rfl
    simp only [blockStatements_eq_flatMap, List.flatMap_append, none, List.append_nil]

/-- A hash that holds one pair at least, and nothing else but pairs and nodes that are no
arguments. -/
structure Node.HoldsPairs (hash : Node) : Prop where
  named : hash.named = true
  kind : hash.kind = .hash
  each : ∀ child ∈ hash.namedChildren, child.kind = .pair ∨ child.kind.isNoArgument = true
  any : ∃ pair ∈ hash.namedChildren, pair.kind = .pair

/-- **The hash at the end of an argument list is replaced by its children**, with the braces around
them or without. -/
inductive OpensHash : List Node → List Node → Prop
  | replace {before inner after : List Node} {hash : Node} : hash.HoldsPairs →
      endsArguments after = true → inner.filter Node.named = hash.namedChildren →
      OpensHash (before ++ hash :: after) (before ++ inner ++ after)

namespace Node.HoldsPairs

variable {hash : Node} (holds : hash.HoldsPairs)

include holds

theorem isArgument : hash.isArgument = true := by
  simp [Node.isArgument, holds.named, holds.kind, Kind.isNoArgument]

/-- Every argument in the hash is a pair. -/
theorem kind_of_mem {child : Node} (inside : child ∈ hash.children)
    (listed : child.isArgument = true) : child.kind = .pair := by
  obtain ⟨named, counts⟩ := Bool.and_eq_true_iff.mp listed
  refine (holds.each child (List.mem_filter.mpr ⟨inside, named⟩)).resolve_right fun skipped => ?_
  simp [skipped] at counts

theorem filter_isPlain : hash.children.filter Node.isPlain = [] := by
  rw [List.filter_eq_nil_iff]
  intro child inside plain
  have pair := holds.kind_of_mem inside (Node.isArgument_of_isPlain plain)
  simp [Node.isPlain, pair] at plain

/-- A list that ends in the children of the hash has no hash at its end. -/
theorem getLast?_filter (lead : List Node) :
    (lead ++ hash.children.filter Node.isArgument).getLast?.filter
      (fun last => last.kind = .hash) = none := by
  obtain ⟨pair, inside, kind⟩ := holds.any
  obtain ⟨inside, named⟩ := List.mem_filter.mp inside
  have listed : pair.isArgument = true :=
    Node.isArgument_of_isPair (by simp [Node.isPair, named, kind])
  cases found : (hash.children.filter Node.isArgument).getLast? with
  | none =>
    rw [List.getLast?_eq_none_iff, List.filter_eq_nil_iff] at found
    exact absurd listed (found pair inside)
  | some last =>
    obtain ⟨within, counts⟩ := List.mem_filter.mp (List.mem_of_getLast? found)
    rw [List.getLast?_append, found]
    simp [Option.filter, holds.kind_of_mem within counts]

end Node.HoldsPairs

/-- Of what counts as an argument, an opened list has that of the hash. -/
theorem filter_opened (before : List Node) {inner after : List Node} {hash : Node}
    (ends : endsArguments after = true) (same : inner.filter Node.named = hash.namedChildren)
    {wanted : Node → Bool} (counts : ∀ {node : Node}, wanted node = true → node.isArgument = true) :
    (before ++ inner ++ after).filter wanted =
      before.filter wanted ++ hash.children.filter wanted := by
  have seen (nodes : List Node) :
      nodes.filter wanted = (nodes.filter Node.named).filter wanted := by
    rw [List.filter_filter]
    refine List.filter_congr fun node _ => ?_
    cases found : wanted node with
    | false => rfl
    | true => exact (Bool.and_eq_true_iff.mp (counts found)).1.symm
  rw [List.filter_append, List.filter_append, filter_eq_nil_of_ends ends counts, List.append_nil,
    seen inner, same, seen hash.children]
  rfl

namespace OpensHash

variable {children others : List Node}

theorem trailingHash?_eq (opens : OpensHash children others) : trailingHash? others = none := by
  obtain ⟨holds, ends, same⟩ := opens
  rw [trailingHash?, filter_opened _ ends same id]
  exact holds.getLast?_filter _

theorem positionalNodes_eq (opens : OpensHash children others) :
    positionalNodes others = positionalNodes children := by
  have none := opens.trailingHash?_eq
  obtain ⟨holds, ends, same⟩ := opens
  rw [positionalNodes_append_last _ holds.isArgument holds.kind ends, positionalNodes, none,
    filter_opened _ ends same Node.isArgument_of_isPlain, holds.filter_isPlain, List.append_nil]
  rfl

theorem optionPairs_eq (opens : OpensHash children others) :
    optionPairs others = optionPairs children := by
  have none := opens.trailingHash?_eq
  obtain ⟨holds, ends, same⟩ := opens
  rw [optionPairs_append_last _ holds.isArgument holds.kind ends, optionPairs, none,
    filter_opened _ ends same Node.isArgument_of_isPair]
  exact List.append_nil _

/-- The same arguments are read of the list. -/
theorem argumentsOf_eq {list : Node} (opens : OpensHash list.children others) :
    argumentsOf source (list.withChildren others) = argumentsOf source list := by
  rw [Source.argumentsOf_eq, Source.argumentsOf_eq, ← opens.positionalNodes_eq,
    ← opens.optionPairs_eq]
  rfl

/-- Read as a block, the list holds the same parameters and statements: the hash and its children
are passed over. -/
theorem block_eq (opens : OpensHash children others) :
    blockParameters source others = blockParameters source children ∧
      blockStatements source others = blockStatements source children := by
  obtain ⟨holds, -, same⟩ := opens
  rename_i before inner after hash
  have inside : ∀ child ∈ inner, child.named = true → child.kind.isSilent = true := by
    intro child within named
    have listed : child ∈ hash.namedChildren := same ▸ List.mem_filter.mpr ⟨within, named⟩
    rcases holds.each child listed with pair | skipped
    · rw [pair]
      rfl
    · exact Kind.isSilent_of_isNoArgument skipped
  have outside : ∀ child ∈ [hash], child.named = true → child.kind.isSilent = true := by
    intro child only _
    rw [List.mem_singleton.mp only, holds.kind]
    rfl
  obtain ⟨parameters, statements⟩ := block_silent source inside before after
  obtain ⟨held, stated⟩ := block_silent source outside before after
  rw [← List.append_cons] at held stated
  exact ⟨parameters.trans held.symm, statements.trans stated.symm⟩

/-- As a part of a call, an argument list is read in the same way. -/
theorem same {list : Node} (opens : OpensHash list.children others)
    (holder : list.isIn .arguments = true ∨ list.kind = .argumentList) :
    ∀ role ∈ Role.ofCallPart list, role.Same source list (list.withChildren others) := by
  intro role part
  simp only [Role.ofCallPart, List.mem_append] at part
  rcases part with (receiver | arguments) | block
  · split at receiver
    · next field =>
      have kind : list.kind = .argumentList := by
        refine holder.resolve_left fun arguments => ?_
        simp only [Node.isIn, decide_eq_true_eq] at field arguments
        rw [arguments] at field
        cases field
      rw [List.mem_singleton.mp receiver]
      obtain ⟨_, start, stop, row, field, named, children⟩ := list
      obtain rfl := kind
      rfl
    · cases receiver
  · split at arguments
    · rw [List.mem_singleton.mp arguments]
      exact opens.argumentsOf_eq
    · cases arguments
  · split at block
    · rw [List.mem_singleton.mp block]
      exact opens.block_eq
    · cases block

end OpensHash

/-! ## Part 4 — the options of a call -/

/-- The argument list of a call, with the children before and after it. -/
structure Node.Takes (call : Node) (first : List Node) (list : Node) (rest : List Node) : Prop where
  children : call.children = first ++ list :: rest
  marked : marksArguments call.children list = true
  unmarked : ∀ child ∈ first, marksArguments call.children child = false

namespace Node.Takes

variable {call list : Node} {first rest : List Node} (takes : call.Takes first list rest)

include takes

theorem isList : list.isIn .arguments = true ∨ list.kind = .argumentList := by
  have marked := takes.marked
  unfold marksArguments at marked
  split at marked
  · exact .inl marked
  · exact .inr (of_decide_eq_true (Bool.and_eq_true_iff.mp marked).2)

theorem argumentsWhere_eq :
    argumentsWhere source (marksArguments call.children) call.children =
      some (argumentsOf source list) := by
  have others : first.find? (marksArguments call.children) = none := by
    rw [List.find?_eq_none]
    intro child inside
    rw [takes.unmarked child inside]
    decide
  have found : call.children.find? (marksArguments call.children) = some list := by
    conv => enter [1, 2]; rw [takes.children]
    rw [List.find?_append, others, List.find?_cons_of_pos takes.marked]
    rfl
  rw [Source.argumentsWhere_eq, found, Option.map_some]

/-- The call has what its argument list holds. -/
theorem made_eq {made : Call} (assembled : callOf? source call = some made) :
    made.arguments = some ((positionalNodes list.children).map (value source)) ∧
      made.options = some (Assoc.ofEntries (entriesOf source (optionPairs list.children))) := by
  unfold callOf? assembleCall at assembled
  obtain ⟨method, -, rfl⟩ := Option.map_eq_some_iff.mp assembled
  simp only [takes.argumentsWhere_eq, Option.getD_some, argumentsOf_eq, and_self]

/-- Of a call whose argument list ends in a hash, the same is read if its pairs are bare. -/
theorem callOf?_opened {children : List Node} (opens : OpensHash list.children children) :
    callOf? source (call.withChildren (first ++ list.withChildren children :: rest)) =
      callOf? source call := by
  have twins : Twins source Role.ofCallPart list (list.withChildren children) :=
    ⟨rfl, opens.same takes.isList⟩
  have alike : Alike source False Role.ofCallPart call.children
      (first ++ list.withChildren children :: rest) := by
    rw [takes.children]
    exact .replace twins first rest
  exact callOf?_eq_of_alike alike fun child role part => part

end Node.Takes

/-- The ways to spell the name of an option: `name:`, `:name` and `:"name"`. -/
inductive Spells (source : ByteArray) (name : String) : Node → Prop
  | label {key : Node} : key.kind = .hashKeySymbol → key.text source = name →
      Spells source name key
  | symbol {key : Node} : key.kind = .simpleSymbol → key.text source = ":" ++ name →
      name.toList.head? ≠ some ':' → Spells source name key
  | quoted {key : Node} : key.kind = .delimitedSymbol →
      (∀ part ∈ key.namedChildren, part.kind ≠ .interpolation) →
      String.join (key.namedChildren.map (Node.text source)) = name → Spells source name key

theorem symbolName_colon {name : String} (plain : name.toList.head? ≠ some ':') :
    symbolName (":" ++ name) = name := by
  have bare : name.toList.dropWhile (· = ':') = name.toList := by
    cases letters : name.toList with
    | nil => rfl
    | cons first rest =>
      have other : first ≠ ':' := by simpa [letters] using plain
      exact List.dropWhile_cons_of_neg (by simpa using other)
  rw [symbolName, String.toList_append]
  change String.ofList (name.toList.dropWhile (· = ':')) = name
  rw [bare, String.ofList_toList]

theorem Spells.value_eq {name : String} {key : Node} (spells : Spells source name key) :
    value source key = .symbol name := by
  obtain ⟨kind, start, stop, row, field, named, children⟩ := key
  cases spells with
  | label label text =>
    obtain rfl : kind = .hashKeySymbol := label
    exact congrArg Value.symbol text
  | symbol symbol text plain =>
    obtain rfl : kind = .simpleSymbol := symbol
    exact congrArg Value.symbol ((congrArg symbolName text).trans (symbolName_colon plain))
  | quoted quoted literal parts =>
    obtain rfl : kind = .delimitedSymbol := quoted
    have none :
        (children.filter Node.named).any (fun part => part.kind = .interpolation) = false := by
      rw [List.any_eq_false]
      intro part inside
      simpa using literal part inside
    rw [value, quotedContent]
    simp only [none]
    exact congrArg Value.symbol parts

theorem Spells.entryOf?_eq {name : String} {pair key content : Node}
    (written : findField? .key pair.children = some key)
    (given : findField? .value pair.children = some content) (spells : Spells source name key) :
    entryOf? source pair = some (.symbol name, value source content) := by
  rw [entryOf?, written, given, Option.bind_some, Option.map_some, spells.value_eq]
  rfl

/-- **The options of a call.** A hash at the end of the argument list is the same as its pairs, and
every other hash is a positional argument. In the call the keys of the options are different and in
order of first occurrence, and each has the value of the last pair that writes it; so the options by
name give every name the value of its last pair, however the name is spelled. -/
theorem callOf?_options (source : ByteArray) {call list : Node} {first rest : List Node}
    (takes : call.Takes first list rest) :
    (∀ {children : List Node}, OpensHash list.children children →
      callOf? source (call.withChildren (first ++ list.withChildren children :: rest)) =
        callOf? source call) ∧
    ∀ {made : Call}, callOf? source call = some made →
      made.arguments = some ((positionalNodes list.children).map (value source)) ∧
      ∃ options named, made.options = some options ∧ made.keywordOptions = .ok named ∧
        Assoc.LastWins (entriesOf source (optionPairs list.children)) options ∧
        ∀ {before after : List Node} {pair key content : Node} {name : String},
          optionPairs list.children = before ++ pair :: after →
          findField? .key pair.children = some key →
          findField? .value pair.children = some content → Spells source name key →
          (∀ later ∈ after, ∀ other, entryOf? source later ≠ some (.symbol name, other)) →
          named.get? name = some (value source content) := by
  refine ⟨takes.callOf?_opened, fun {made} assembled => ?_⟩
  obtain ⟨positional, options⟩ := takes.made_eq assembled
  have wins := Assoc.lastWins_ofEntries (entriesOf source (optionPairs list.children))
  refine ⟨positional, _, _, options, by rw [Call.keywordOptions_eq, options], wins, ?_⟩
  intro before after pair key content name pairs written given spells last
  have entries : entriesOf source (optionPairs list.children) =
      entriesOf source before ++
        (.symbol name, value source content) :: entriesOf source after := by
    rw [pairs, entriesOf, List.filterMap_append,
      List.filterMap_cons_some (spells.entryOf?_eq written given)]
    rfl
  have unwritten : .symbol name ∉ (entriesOf source after).map Prod.fst := by
    intro inside
    obtain ⟨⟨_, other⟩, member, rfl⟩ := List.mem_map.mp inside
    obtain ⟨later, within, writes⟩ := List.mem_filterMap.mp member
    exact last later within other writes
  exact (get?_ofEntries_namedEntries wins.distinct name).trans (wins.last entries unwritten)

/-- A hash that stays positional, a bare pair, and a hash at the end that writes its key again. -/
theorem callOf?_options_repeated :
    let source := "x(\x7ba: 1\x7d, b: 2, \x7b:b => 3\x7d)".toUTF8
    let mark (start : Nat) : Node := ⟨.other, start, start + 1, 0, none, false, []⟩
    let number (start : Nat) : Node := ⟨.other, start, start + 1, 0, some .value, true, []⟩
    let label (start : Nat) : Node :=
      ⟨.hashKeySymbol, start, start + 1, 0, some .key, true, []⟩
    let symbol : Node := ⟨.simpleSymbol, 17, 19, 0, some .key, true, []⟩
    let pair (key content : Node) : Node :=
      ⟨.pair, key.start, content.stop, 0, none, true, [key, content]⟩
    let early : Node := ⟨.hash, 2, 8, 0, none, true, [mark 2, pair (label 3) (number 6), mark 7]⟩
    let bare := pair (label 10) (number 13)
    let last := pair symbol (number 23)
    let late : Node := ⟨.hash, 16, 25, 0, none, true, [mark 16, last, mark 24]⟩
    let list (children : List Node) : Node :=
      ⟨.argumentList, 1, 26, 0, some .arguments, true, children⟩
    let name : Node := ⟨.identifier, 0, 1, 0, some .method, true, []⟩
    let call (children : List Node) : Node := ⟨.call, 0, 26, 0, none, true, [name, list children]⟩
    let closed := [mark 1, early, bare] ++ late :: [mark 25]
    let opened := [mark 1, early, bare] ++ [last] ++ [mark 25]
    (call closed).Takes [name] (list closed) [] ∧ OpensHash closed opened ∧
      Spells source "b" (label 10) ∧ Spells source "b" symbol ∧
      callOf? source (call opened) = callOf? source (call closed) ∧
      ∃ made options named, callOf? source (call closed) = some made ∧
        made.arguments = some [value source early] ∧ made.options = some options ∧
        made.keywordOptions = .ok named ∧ Assoc.keys options = [.symbol "b"] ∧
        named.get? "b" = some (.atom (.expression "3")) := by
  intro source mark number label symbol pair early bare last late list name call closed opened
  have takes : (call closed).Takes [name] (list closed) [] := ⟨rfl, by decide, by decide⟩
  have holds : late.HoldsPairs := ⟨rfl, rfl, by decide, last, List.mem_cons_self, rfl⟩
  have opens : OpensHash closed opened := .replace holds (by decide) rfl
  have first : Spells source "b" (label 10) := .label rfl (by decide +kernel)
  have second : Spells source "b" symbol := .symbol rfl (by decide +kernel) (by decide)
  obtain ⟨same, made⟩ := callOf?_options source takes
  obtain ⟨positional, options, named, held, read, wins, newest⟩ := made rfl
  refine ⟨takes, opens, first, second, same opens, _, options, named, rfl, positional, held, read,
    ?_, ?_⟩
  · rw [wins.ordered]
    decide +kernel
  · have pairs : optionPairs (list closed).children = [bare] ++ last :: [] := rfl
    have three : slice source 23 24 = "3" := by decide +kernel
    rw [newest pairs rfl rfl second nofun]
    exact congrArg (fun text => some (Value.atom (.expression text))) three

end RouteTable.Source
