/-
**Camel case.**

A word in camel case has no underscore in it and begins with a character that is its own upper case.
Camel-casing gives such a word, and it leaves such a word as it is.

* `camelizeChars_eq`: camel-casing as one pass from left to right;
* `mark_of_mem_camelizeFrom`, `camelizeFrom_ne_nil`: what the pass keeps of a word;
* `isCamelCase_camelizeChars`, `IsCamelCase.camelizeChars_eq`: what camel-casing gives and leaves;
* `camelize_idempotent`: to camel-case a word once is enough.
-/

import RouteTable.Controller
import RouteTable.Proofs.Text.Uppercase

namespace RouteTable

/-! ## Part 1 — camel case from left to right -/

/-- Camel case in one pass: underscores are left out, and the character after one is raised, as is
the first one if asked. -/
def camelizeFrom : Bool → List Char → List Char
  | _, [] => []
  | raised, head :: rest =>
    if head = '_' then camelizeFrom true rest
    else (if raised then Text.uppercase head else [head]) ++ camelizeFrom false rest

theorem camelizeFrom_pieces (raised : Bool) {word first : List Char} {others : List (List Char)}
    (cut : Text.pieces (· = '_') word = first :: others) :
    camelizeFrom raised word =
      (if raised then capitalized first else first) ++ others.flatMap capitalized := by
  induction word generalizing raised first others with
  | nil =>
    obtain ⟨rfl, rfl⟩ := List.cons.inj cut
    cases raised <;> rfl
  | cons head rest ih =>
    obtain ⟨next, later, found⟩ :=
      List.exists_cons_of_ne_nil (Text.pieces_ne_nil (· = '_') rest)
    rw [Text.pieces, found] at cut
    by_cases mark : head = '_'
    · rw [if_pos (by simpa using mark)] at cut
      obtain ⟨rfl, rfl⟩ := List.cons.inj cut
      rw [camelizeFrom, if_pos mark, ih true found]
      cases raised <;> rfl
    · rw [if_neg (by simpa using mark)] at cut
      obtain ⟨rfl, rfl⟩ := List.cons.inj cut
      rw [camelizeFrom, if_neg mark, ih false found]
      cases raised
      · rfl
      · exact (List.append_assoc _ _ _).symm

/-- Camel-casing a word is one pass over it. -/
theorem camelizeChars_eq (word : List Char) : camelizeChars word = camelizeFrom true word := by
  have dropped (parts : List (List Char)) :
      (parts.filter fun part => !part.isEmpty).flatMap capitalized = parts.flatMap capitalized := by
    induction parts with
    | nil => rfl
    | cons part parts ih => cases part <;> simp [capitalized, ih]
  obtain ⟨first, others, found⟩ := List.exists_cons_of_ne_nil (Text.pieces_ne_nil (· = '_') word)
  rw [camelizeChars, Text.words, dropped, camelizeFrom_pieces true found, found]
  rfl

variable {raised : Bool} {word : List Char}

/-- A mark in camel case was written, and it is no underscore. -/
theorem mark_of_mem_camelizeFrom {mark : Char} (named : mark ∈ nameMarks)
    (inside : mark ∈ camelizeFrom raised word) : mark ∈ word ∧ mark ≠ '_' := by
  induction word generalizing raised with
  | nil => cases inside
  | cons head rest ih =>
    rw [camelizeFrom] at inside
    split at inside
    · exact (ih inside).imp_left (List.mem_cons_of_mem head)
    · next plain =>
      rcases List.mem_append.mp inside with first | later
      · have same : mark = head := by
          split at first
          · exact Text.eq_of_mem_uppercase first named
          · exact List.mem_singleton.mp first
        exact ⟨same ▸ List.mem_cons_self, same ▸ plain⟩
      · exact (ih later).imp_left (List.mem_cons_of_mem head)

/-- Something is left of a word in which there is more than underscores. -/
theorem camelizeFrom_ne_nil {char : Char} (inside : char ∈ word) (plain : char ≠ '_') :
    camelizeFrom raised word ≠ [] := by
  induction word generalizing raised with
  | nil => cases inside
  | cons head rest ih =>
    rw [camelizeFrom]
    split
    · next underscore =>
      rcases List.mem_cons.mp inside with rfl | later
      · exact absurd underscore plain
      · exact ih later
    · intro empty
      have first := (List.append_eq_nil_iff.mp empty).1
      split at first
      · exact Text.uppercase_ne_nil head first
      · cases first

/-! ## Part 2 — words in camel case -/

/-- The word has no underscore in it and begins with a character that is its own upper case. -/
structure IsCamelCase (word : List Char) : Prop where
  joined : '_' ∉ word
  raised : ∀ first ∈ word.head?, Text.uppercase first = [first]

/-- Without underscores there is nothing to raise after the first character. -/
theorem camelizeFrom_of_joined {word : List Char} (joined : '_' ∉ word) :
    camelizeFrom false word = word := by
  induction word with
  | nil => rfl
  | cons head rest ih =>
    rw [List.mem_cons, not_or] at joined
    rw [camelizeFrom, if_neg (Ne.symm joined.1), ih joined.2]
    rfl

/-- Camel-casing leaves words in camel case as they are. -/
theorem IsCamelCase.camelizeChars_eq {word : List Char} (settled : IsCamelCase word) :
    camelizeChars word = word := by
  rw [RouteTable.camelizeChars_eq]
  cases word with
  | nil => rfl
  | cons head rest =>
    have joined := settled.joined
    rw [List.mem_cons, not_or] at joined
    rw [camelizeFrom, if_neg (Ne.symm joined.1), camelizeFrom_of_joined joined.2, if_pos rfl,
      settled.raised head rfl]
    rfl

/-- What camel-casing gives begins with what an upper case begins with. -/
theorem head?_camelizeFrom_raised (word : List Char) :
    ∀ first ∈ (camelizeFrom true word).head?, Text.uppercase first = [first] := by
  induction word with
  | nil =>
    intro first leads
    cases leads
  | cons head rest ih =>
    rw [camelizeFrom]
    split
    · exact ih
    · obtain ⟨raised, others, upper, fixed⟩ := Text.uppercase_head head
      intro first leads
      rw [if_pos rfl, upper, List.cons_append] at leads
      obtain rfl := Option.some.inj leads
      exact fixed

/-- Camel-casing gives words in camel case. -/
theorem isCamelCase_camelizeChars (word : List Char) : IsCamelCase (camelizeChars word) := by
  rw [RouteTable.camelizeChars_eq]
  exact ⟨fun inside => (mark_of_mem_camelizeFrom (by decide) inside).2 rfl,
    head?_camelizeFrom_raised word⟩

/-- **To camel-case a word once is enough.** A second time changes nothing, there is no underscore
left, and the words that are left as they are at once are exactly those without an underscore that
begin with a character that is its own upper case, if they begin with any. -/
theorem camelize_idempotent (word : String) :
    camelize (camelize word) = camelize word ∧ '_' ∉ (camelize word).toList ∧
      (camelize word = word ↔
        '_' ∉ word.toList ∧ ∀ first ∈ word.toList.head?, Text.uppercase first = [first]) := by
  have settled := isCamelCase_camelizeChars word.toList
  have written : (camelize word).toList = camelizeChars word.toList := String.toList_ofList
  refine ⟨?_, written ▸ settled.joined, fun same => ?_, fun ⟨joined, raised⟩ => ?_⟩
  · rw [camelize, written, settled.camelizeChars_eq]
    rfl
  · rw [← written, same] at settled
    exact ⟨settled.joined, settled.raised⟩
  · have kept : IsCamelCase word.toList := ⟨joined, raised⟩
    rw [camelize, kept.camelizeChars_eq, String.ofList_toList]

end RouteTable
