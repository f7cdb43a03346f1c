/-
**Interpolated texts have no name.**

What an interpolated text will be is known only when the routing file is run, so a quoted text or
symbol with an interpolated part is no literal. Where names are listed it counts for nothing: an
array gives the same names without it, and a hash gives the same names without a pair under it. The
words of word arrays are not looked into, and each of them is the literal that it is written as.

* `literal?_quoted_iff`, `literal?_word`: which texts are literals;
* `Nameless.of_literal`: what is no literal adds no name to arrays and hashes;
* `nameless_iff_interpolates`: of quoted texts, exactly the interpolated ones are nameless.
-/

import RouteTable.Proofs.Source.Arguments

namespace RouteTable.Source

variable {source : ByteArray}

/-! ## Part 1 — literals -/

/-- A part of the node is interpolated. -/
def Node.Interpolates (node : Node) : Prop :=
  ∃ part ∈ node.namedChildren, part.kind = .interpolation

theorem quotedContent_snd_iff (source : ByteArray) (node : Node) :
    (quotedContent source node.children).2 = true ↔ node.Interpolates := by
  simp [quotedContent, Node.Interpolates, Node.namedChildren, and_assoc]

/-- A quoted text or symbol is a literal exactly if no part of it is interpolated. -/
theorem literal?_quoted_iff {node : Node}
    (quoted : node.kind = .string ∨ node.kind = .delimitedSymbol) :
    (value source node).literal? = none ↔ node.Interpolates := by
  rw [← quotedContent_snd_iff source]
  obtain ⟨kind, start, stop, row, field, named, children⟩ := node
  change _ ↔ (quotedContent source children).2 = true
  rcases quoted with (rfl : kind = .string) | (rfl : kind = .delimitedSymbol)
  all_goals
    rw [value]
    obtain ⟨content, interpolated⟩ := quotedContent source children
    cases interpolated <;> simp [Value.literal?, Atom.literal?]

/-- The words of word arrays are not looked into. -/
theorem literal?_word {node : Node} (word : node.kind = .bareString ∨ node.kind = .bareSymbol) :
    (value source node).literal? = some (node.text source) := by
  obtain ⟨kind, start, stop, row, field, named, children⟩ := node
  rcases word with (rfl : kind = .bareString) | (rfl : kind = .bareSymbol)
  · rfl
  · rfl

/-! ## Part 2 — lists of names -/

/-- The kinds of arrays. -/
def Kind.isArray : Kind → Bool
  | .array | .symbolArray | .stringArray => true
  | _ => false

/-- The node is no literal, and no list of names has a name from it: neither an array with it among
its items, nor a hash with a pair under it. -/
structure Nameless (source : ByteArray) (node : Node) : Prop where
  literal : (value source node).literal? = none
  item : ∀ {array : Node} {before after : List Node}, array.kind.isArray = true →
    array.children = before ++ node :: after →
    (value source array).namesOf = (value source (array.withChildren (before ++ after))).namesOf
  key : ∀ {hash pair : Node} {before after : List Node}, hash.kind = .hash →
    hash.children = before ++ pair :: after → findField? .key pair.children = some node →
    (value source hash).namesOf = (value source (hash.withChildren (before ++ after))).namesOf

theorem value_array {array : Node} (listing : array.kind.isArray = true) :
    value source array = .array (values source array.children) := by
  obtain ⟨kind, start, stop, row, field, named, children⟩ := array
  change kind.isArray = true at listing
  cases kind with
  | array | symbolArray | stringArray => rfl
  | _ => cases listing

theorem value_hash {hash : Node} (kind : hash.kind = .hash) :
    value source hash =
      .hash (Assoc.ofEntries (entriesOf source (hash.children.filter Node.isPair))) := by
  obtain ⟨_, start, stop, row, field, named, children⟩ := hash
  obtain rfl := kind
  rw [value, addPairs_eq]
  rfl

/-- A key that is no literal is kept as what it is, or as the source of it. -/
theorem literal?_keyOf {key : Value} (unread : key.literal? = none) (text : String) :
    (keyOf key text).literal? = none := by
  cases key with
  | atom atom =>
    cases atom with
    | symbol | text => cases unread
    | _ => rfl
  | array | hash | call => rfl

/-- The names that a hash lists depend on the entries with literal keys alone. -/
theorem namesOf_hash_congr {entries others : List (Atom × Value)}
    (same : (entries.filter fun entry => entry.1.literal?.isSome) =
      others.filter fun entry => entry.1.literal?.isSome) :
    (Value.hash (Assoc.ofEntries entries)).namesOf =
      (Value.hash (Assoc.ofEntries others)).namesOf := by
  have read (map : List (Atom × Value)) : (map.filterMap fun entry => entry.1.literal?) =
      (map.filter fun entry => entry.1.literal?.isSome).filterMap
        fun entry => entry.1.literal? := by
    rw [List.filterMap_filter]
    congr 1
    funext entry
    cases entry.1.literal? <;> rfl
  have kept (writes : List (Atom × Value)) :
      (Assoc.ofEntries writes).filter (fun entry => entry.1.literal?.isSome) =
        Assoc.ofEntries (writes.filter fun entry => entry.1.literal?.isSome) :=
    Assoc.filter_merge (fun key => key.literal?.isSome) [] writes
  rw [Value.namesOf, Value.namesOf, read, kept, same, ← kept, ← read]

section Skip

variable {node : Node} (unread : (value source node).literal? = none) (before after : List Node)

include unread

/-- Among the items of an array, what is no literal is passed over. -/
theorem namesOf_array_skip :
    (Value.array (values source (before ++ node :: after))).namesOf =
      (Value.array (values source (before ++ after))).namesOf := by
  have own : (if node.named && node.kind ≠ .comment then [value source node] else []).filterMap
      Value.literal? = [] := by
    split
    · exact List.filterMap_cons_none unread
    · rfl
  rw [Value.namesOf, Value.namesOf, values_eq_flatMap, values_eq_flatMap, List.flatMap_append,
    List.flatMap_cons, List.flatMap_append, List.filterMap_append, List.filterMap_append,
    List.filterMap_append, own, List.nil_append]

/-- Among the entries of a hash, a pair under what is no literal is passed over. -/
theorem namesOf_hash_skip {pair : Node} (key : findField? .key pair.children = some node) :
    (Value.hash (Assoc.ofEntries (entriesOf source (before ++ pair :: after)))).namesOf =
      (Value.hash (Assoc.ofEntries (entriesOf source (before ++ after)))).namesOf := by
  refine namesOf_hash_congr ?_
  have own : (entryOf? source pair).toList.filter (fun entry => entry.1.literal?.isSome) = [] := by
    rw [entryOf?, key, Option.bind_some]
    cases findField? .value pair.children with
    | none => rfl
    | some content => simp [literal?_keyOf unread]
  have entries : entriesOf source (before ++ pair :: after) =
      entriesOf source before ++ ((entryOf? source pair).toList ++ entriesOf source after) := by
    rw [entriesOf, List.filterMap_append, List.filterMap_cons]
    cases entryOf? source pair <;> rfl
  rw [entries, List.filter_append, List.filter_append, own, List.nil_append, ← List.filter_append,
    entriesOf, entriesOf, entriesOf, List.filterMap_append]

end Skip

/-- **What is no literal adds no name.** -/
theorem Nameless.of_literal {node : Node} (unread : (value source node).literal? = none) :
    Nameless source node where
  literal := unread
  item := by
    intro array before after listing children
    have others : value source (array.withChildren (before ++ after)) =
        .array (values source (before ++ after)) := value_array listing
    rw [value_array listing, others, children, namesOf_array_skip unread]
  key := by
    intro hash pair before after kind children key
    have others : value source (hash.withChildren (before ++ after)) =
        .hash (Assoc.ofEntries (entriesOf source ((before ++ after).filter Node.isPair))) :=
      value_hash kind
    rw [value_hash kind, others, children, List.filter_append, List.filter_append]
    by_cases counts : pair.isPair = true
    · rw [List.filter_cons_of_pos counts, namesOf_hash_skip unread _ _ key]
    · rw [List.filter_cons_of_neg counts]

/-- **Interpolated texts have no name.** A quoted text or symbol with an interpolated part is no
literal, and arrays and hashes list the same names without it; every other one is a literal. -/
theorem nameless_iff_interpolates {node : Node}
    (quoted : node.kind = .string ∨ node.kind = .delimitedSymbol) :
    Nameless source node ↔ node.Interpolates := by
  constructor
  · intro nameless
    exact (literal?_quoted_iff quoted).mp nameless.literal
  · intro part
    exact .of_literal ((literal?_quoted_iff quoted).mpr part)

/-- An interpolated text among the items of an array and as a key of a hash. -/
theorem nameless_iff_interpolates_listed :
    let source := "[\"a#\x7bx\x7d\", :b]".toUTF8
    let part : Node := ⟨.interpolation, 3, 7, 0, none, true, []⟩
    let letter : Node := ⟨.other, 2, 3, 0, none, true, []⟩
    let text (field : Option Field) : Node := ⟨.string, 1, 8, 0, field, true, [letter, part]⟩
    let symbol (field : Option Field) : Node := ⟨.simpleSymbol, 10, 12, 0, field, true, []⟩
    let pair (key : Node) : Node := ⟨.pair, 1, 12, 0, none, true, [key, symbol (some .value)]⟩
    let array (items : List Node) : Node := ⟨.array, 0, 13, 0, none, true, items⟩
    let hash (pairs : List Node) : Node := ⟨.hash, 0, 13, 0, none, true, pairs⟩
    (text none).Interpolates ∧
      (value source (text none)).literal? = none ∧
      (value source (array [text none, symbol none])).namesOf =
        (value source (array [symbol none])).namesOf ∧
      (value source (array [symbol none])).namesOf = some ["b"] ∧
      (value source (hash [pair (text (some .key)), pair (symbol (some .key))])).namesOf =
        (value source (hash [pair (symbol (some .key))])).namesOf ∧
      (value source (hash [pair (symbol (some .key))])).namesOf = some ["b"] := by
  intro source part letter text symbol pair array hash
  have interpolates (field : Option Field) : (text field).Interpolates :=
    ⟨part, List.mem_cons_of_mem _ List.mem_cons_self, rfl⟩
  have nameless (field : Option Field) : Nameless source (text field) :=
    (nameless_iff_interpolates (.inl rfl)).mpr (interpolates field)
  have items : (array [text none, symbol none]).children =
      [] ++ text none :: [symbol none] := rfl
  have pairs : (hash [pair (text (some .key)), pair (symbol (some .key))]).children =
      [] ++ pair (text (some .key)) :: [pair (symbol (some .key))] := rfl
  have item := (nameless none).item rfl items
  have key := (nameless (some .key)).key rfl pairs rfl
  exact ⟨interpolates none, (nameless none).literal, item, by decide +kernel, key,
    by decide +kernel⟩

/-- An interpolated word of a word array is a literal, and the array lists it. -/
theorem interpolated_word_listed :
    let source := "%W[a#\x7bx\x7d]".toUTF8
    let part : Node := ⟨.interpolation, 4, 8, 0, none, true, []⟩
    let letter : Node := ⟨.other, 3, 4, 0, none, true, []⟩
    let word : Node := ⟨.bareString, 3, 8, 0, none, true, [letter, part]⟩
    let array : Node := ⟨.stringArray, 0, 9, 0, none, true, [word]⟩
    word.Interpolates ∧ (value source word).literal? = some "a#\x7bx\x7d" ∧
      (value source array).namesOf = some ["a#\x7bx\x7d"] ∧
      (value source (array.withChildren [])).namesOf = some [] := by
  intro source part letter word array
  exact ⟨⟨part, List.mem_cons_of_mem _ List.mem_cons_self, rfl⟩, by decide +kernel,
    by decide +kernel, by decide +kernel⟩

end RouteTable.Source
