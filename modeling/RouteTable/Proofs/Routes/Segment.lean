/-
**Segments of controller names.**

A name is cut at `/` and `::`, empty pieces are dropped, and each piece is camel-cased. Camel-casing
takes the underscores out of a piece, so it may leave nothing of it, and it may bring two colons
together. Both can only happen where a part of the name consists of underscores alone.

* `camelizeSegments_marks`: no segment has a slash or an underscore in it;
* `camelizeSegments_append`: a slash between two names cuts them apart;
* `camelizeSegments_wellFormed`: the segments of a regular name are not empty and have no `::`;
* `RegularName.splitTarget`, `RegularName.splitPath`: what is read off a regular text is regular.
-/

import RouteTable.RoutePath
import RouteTable.Proofs.Routes.CamelCase
import RouteTable.Proofs.Text.Cuts
import Mathlib.Data.List.Chain

namespace RouteTable

/-! ## Part 1 — colons -/

variable {raised : Bool} {word : List Char}

/-- Two characters are not both colons. -/
def Unpaired (first second : Char) : Prop := ¬(first = ':' ∧ second = ':')

/-- No two colons stand next to each other in a text. -/
abbrev NoColons (text : List Char) : Prop := text.IsChain Unpaired

theorem NoColons.no_pair {text : List Char} (apart : NoColons text) : ¬[':', ':'] <:+: text := by
  intro inside
  have pair : List.IsChain Unpaired [':', ':'] := apart.infix inside
  exact (List.isChain_cons.mp pair).1 ':' rfl ⟨rfl, rfl⟩

/-- A text without a colon has no two of them. -/
theorem NoColons.of_not_mem {text : List Char} (without : ':' ∉ text) : NoColons text := by
  induction text with
  | nil => exact .nil
  | cons head rest ih =>
    have different : head ≠ ':' := fun same => without (same ▸ List.mem_cons_self)
    exact .cons (ih fun later => without (List.mem_cons_of_mem head later))
      fun _ _ both => different both.1

/-- What a word begins with after its underscores, its camel case begins with. -/
theorem head?_camelizeFrom (leads : ':' ∈ (camelizeFrom raised word).head?) :
    ':' ∈ (word.filter (· ≠ '_')).head? := by
  induction word generalizing raised with
  | nil => cases leads
  | cons head rest ih =>
    rw [camelizeFrom] at leads
    by_cases underscore : head = '_'
    · rw [if_pos underscore] at leads
      rw [List.filter_cons_of_neg (by simpa using underscore)]
      exact ih leads
    · rw [if_neg underscore] at leads
      rw [List.filter_cons_of_pos (by simpa using underscore)]
      suffices same : ':' = head by rw [← same]; exact rfl
      split at leads
      · rw [List.head?_append_of_ne_nil _ (Text.uppercase_ne_nil head)] at leads
        exact Text.eq_of_mem_uppercase (List.mem_of_mem_head? leads) (by decide)
      · exact (Option.some.inj leads).symm

/-- Camel-casing brings two colons together only if nothing but underscores was between them. -/
theorem NoColons.camelizeFrom (apart : NoColons (word.filter (· ≠ '_'))) :
    NoColons (camelizeFrom raised word) := by
  induction word generalizing raised with
  | nil => exact .nil
  | cons head rest ih =>
    rw [RouteTable.camelizeFrom]
    by_cases underscore : head = '_'
    · rw [List.filter_cons_of_neg (by simpa using underscore)] at apart
      rw [if_pos underscore]
      exact ih apart
    · rw [List.filter_cons_of_pos (by simpa using underscore)] at apart
      obtain ⟨first, later⟩ := List.isChain_cons.mp apart
      rw [if_neg underscore]
      by_cases colon : head = ':'
      · subst colon
        have kept : (if raised = true then Text.uppercase ':' else [':']) = [':'] := by
          cases raised
          · rfl
          · decide +kernel
        rw [kept]
        refine .cons (ih later) fun next leads both => ?_
        rw [both.2] at leads
        exact first ':' (head?_camelizeFrom leads) ⟨rfl, rfl⟩
      · have without : ':' ∉ (if raised = true then Text.uppercase head else [head]) := by
          intro inside
          split at inside
          · exact colon (Text.eq_of_mem_uppercase inside (by decide)).symm
          · exact colon (List.mem_singleton.mp inside).symm
        refine List.isChain_append.mpr ⟨NoColons.of_not_mem without, ih later, ?_⟩
        rintro last written next - ⟨rfl, -⟩
        exact without (List.mem_of_mem_getLast? written)

/-! ## Part 2 — the pieces of a name -/

theorem pathPieces_ne_nil (text : List Char) : pathPieces text ≠ [] := by
  unfold pathPieces
  split
  · exact List.cons_ne_nil _ _
  · exact List.cons_ne_nil _ _
  · exact List.cons_ne_nil _ _
  · split <;> exact List.cons_ne_nil _ _

/-- A name is its pieces with slashes and colons between them. -/
theorem cuts_pathPieces (text : List Char) :
    Text.Cuts (fun char => char = '/' || char = ':') text (pathPieces text) := by
  fun_induction pathPieces text with
  | case1 => exact .whole []
  | case2 rest ih => exact ih.afterMarks (List.cons_ne_nil '/' []) (by simp)
  | case3 rest ih => exact ih.afterMarks (List.cons_ne_nil ':' [':']) (by simp)
  | case4 head rest _ _ none => exact absurd none (pathPieces_ne_nil rest)
  | case5 head rest _ _ first others found ih =>
    rw [found] at ih
    exact ih.cons head

/-- No piece of a name has a slash or two colons in it. -/
theorem pathPieces_clean (text : List Char) :
    ∀ piece ∈ pathPieces text, '/' ∉ piece ∧ NoColons piece := by
  fun_induction pathPieces text with
  | case1 => simp
  | case2 rest ih => exact List.forall_mem_cons.mpr ⟨⟨List.not_mem_nil, .nil⟩, ih⟩
  | case3 rest ih => exact List.forall_mem_cons.mpr ⟨⟨List.not_mem_nil, .nil⟩, ih⟩
  | case4 head rest _ _ none => exact absurd none (pathPieces_ne_nil rest)
  | case5 head rest slash colons first others found ih =>
    rw [found] at ih
    obtain ⟨⟨clean, apart⟩, later⟩ := List.forall_mem_cons.mp ih
    refine List.forall_mem_cons.mpr ⟨⟨?_, ?_⟩, later⟩
    · exact List.not_mem_cons_of_ne_of_not_mem (fun same => slash same.symm) clean
    · refine .cons apart fun next leads both => ?_
      -- then the text itself goes on with a colon, and would have been cut here
      rw [both.2] at leads
      have goes := (found ▸ cuts_pathPieces rest).mem_head? leads
      obtain ⟨tail, rfl⟩ := List.head?_eq_some_iff.mp goes
      exact colons tail both.1 rfl

/-- A slash between two texts cuts them apart: no separator reaches over it. -/
theorem pathPieces_append (first second : List Char) :
    pathPieces (first ++ '/' :: second) = pathPieces first ++ pathPieces second := by
  fun_induction pathPieces first with
  | case1 => rfl
  | case2 rest ih => rw [List.cons_append, pathPieces, ih, List.cons_append]
  | case3 rest ih => rw [List.cons_append, List.cons_append, pathPieces, ih, List.cons_append]
  | case4 head rest _ _ none => exact absurd none (pathPieces_ne_nil rest)
  | case5 head rest slash colons piece others found ih =>
    rw [found] at ih
    -- a colon at the end of the first text does not find a second one behind the slash
    have single (later : List Char) (colon : head = ':') : rest ++ '/' :: second ≠ ':' :: later := by
      cases rest with
      | nil => simp
      | cons next tail =>
        intro same
        exact colons tail colon (by rw [(List.cons.inj same).1])
    rw [List.cons_append, pathPieces, ih]
    · rfl
    · exact slash
    · exact single

theorem camelizeSegments_append (first second : String) :
    camelizeSegments (first ++ "/" ++ second) =
      camelizeSegments first ++ camelizeSegments second := by
  have text : (first ++ "/" ++ second).toList = first.toList ++ '/' :: second.toList := by
    simp [String.toList_append]
  rw [camelizeSegments, text, pathPieces_append, List.filter_append, List.map_append]
  rfl

/-! ## Part 3 — regular names -/

/-- The characters between which the parts of names, paths and targets stand. -/
def isNameMark (char : Char) : Bool := char = '/' || char = ':' || char = '#'

/-- No part of a text consists of underscores alone. -/
def RegularName (text : String) : Prop :=
  ∀ word ∈ Text.words isNameMark text.toList, ∃ char ∈ word, char ≠ '_'

theorem regularName_iff (text : String) :
    (Text.words isNameMark text.toList).all (fun word => word.any (· ≠ '_')) = true ↔
      RegularName text := by
  simp only [RegularName, List.all_eq_true, List.any_eq_true, decide_eq_true_eq]

instance (text : String) : Decidable (RegularName text) :=
  decidable_of_iff _ (regularName_iff text)

namespace RegularName

theorem empty : RegularName "" := by
  decide

theorem of_cuts {text part : String} {parts : List (List Char)} (regular : RegularName text)
    (cuts : Text.Cuts isNameMark text.toList parts) (listed : part.toList ∈ parts) :
    RegularName part :=
  fun word inside => regular word (cuts.mem_words listed inside)

/-- The controller in a regular target is regular. -/
theorem splitTarget {target : String} {names : String × String} (regular : RegularName target)
    (split : RoutePath.splitTarget? target = some names) : RegularName names.1 := by
  unfold RoutePath.splitTarget? at split
  split at split
  · next controller action found =>
    split at split
    · cases split
    · obtain rfl := Option.some.inj split
      refine regular.of_cuts (Text.cuts_cutAt (by decide) found) ?_
      rw [String.toList_ofList]
      exact List.mem_cons_self
  · cases split

/-- The controller that a regular path suggests is regular. -/
theorem splitPath {path : String} {names : String × String} (regular : RegularName path)
    (split : RoutePath.splitPath? path = some names) : RegularName names.1 := by
  unfold RoutePath.splitPath? at split
  dsimp only at split
  split at split
  · cases split
  · obtain ⟨action, last, rfl⟩ := Option.map_eq_some_iff.mp split
    have slash : isNameMark '/' = true := by decide
    have cuts : Text.Cuts isNameMark path.toList (Text.pieces (· = '/') path.toList) :=
      (Text.cuts_pieces _ _).mono fun char mark => by
        obtain rfl : char = '/' := by simpa using mark
        exact slash
    -- the controller is made of the segments before the last, and each is a piece of the path
    let before := (RoutePath.segments path).dropLast.map String.toList
    intro word inside
    have joined : word ∈ before.flatMap (Text.words isNameMark) := by
      by_cases none : (RoutePath.segments path).dropLast = []
      · rw [none] at inside
        cases inside
      · have made : Text.Cuts isNameMark ("/".toList.intercalate before) before :=
          Text.cuts_intercalate (by decide) (by simpa using slash) (mt List.map_eq_nil_iff.mp none)
        rwa [String.toList_intercalate, made.words_eq] at inside
    obtain ⟨piece, listed, within⟩ := List.mem_flatMap.mp joined
    obtain ⟨segment, kept, rfl⟩ := List.mem_map.mp listed
    obtain ⟨origin, found, rfl⟩ := List.mem_map.mp (List.dropLast_subset _ kept)
    rw [String.toList_ofList] at within
    exact regular word (cuts.mem_words (List.mem_filter.mp found).1 within)

end RegularName

/-- A segment of the name of a controller as it should be. -/
structure WellFormedSegment (segment : String) : Prop where
  nonempty : segment ≠ ""
  slash : '/' ∉ segment.toList
  underscore : '_' ∉ segment.toList
  colons : ¬[':', ':'] <:+: segment.toList

/-- No segment has a slash or an underscore in it, whatever the name is. -/
theorem camelizeSegments_marks {name segment : String} (listed : segment ∈ camelizeSegments name) :
    '/' ∉ segment.toList ∧ '_' ∉ segment.toList := by
  obtain ⟨piece, kept, rfl⟩ := List.mem_map.mp listed
  have clean := (pathPieces_clean name.toList piece (List.mem_filter.mp kept).1).1
  rw [String.toList_ofList, camelizeChars_eq]
  constructor
  · intro slash
    exact clean (mark_of_mem_camelizeFrom (by decide) slash).1
  · intro underscore
    exact (mark_of_mem_camelizeFrom (by decide) underscore).2 rfl

/-- A text is made of more than underscores if no word of it is. -/
theorem exists_ne_underscore {piece : List Char} (written : piece ≠ [])
    (regular : ∀ word ∈ Text.words isNameMark piece, ∃ char ∈ word, char ≠ '_') :
    ∃ char ∈ piece, char ≠ '_' := by
  by_contra none
  have hollow : ∀ char ∈ piece, char = '_' := by simpa using none
  have clean : ∀ char ∈ piece, isNameMark char = false := by
    intro char inside
    rw [hollow char inside]
    decide
  have only := Text.words_of_clean clean written
  obtain ⟨char, inside, plain⟩ := regular piece (only ▸ List.mem_cons_self)
  exact plain (hollow char inside)

/-- Where no part consists of underscores, there is more than underscores between two colons. -/
theorem NoColons.exists_between {before gap after : List Char}
    (apart : NoColons (before ++ ':' :: (gap ++ ':' :: after)))
    (regular : ∀ word ∈ Text.words isNameMark (before ++ ':' :: (gap ++ ':' :: after)),
      ∃ char ∈ word, char ≠ '_') : ∃ char ∈ gap, char ≠ '_' := by
  have colon : isNameMark ':' = true := by decide
  rw [Text.words_append_cons before colon, Text.words_append_cons gap colon] at regular
  refine exists_ne_underscore ?_ fun word inside => regular word ?_
  · rintro rfl
    exact apart.no_pair ⟨before, after, by simp⟩
  · exact List.mem_append_right _ (List.mem_append_left _ inside)

/-- Two colons between which there is more than underscores stay apart without the underscores. -/
theorem NoColons.filter {piece : List Char}
    (separated : ∀ before gap after, piece = before ++ ':' :: (gap ++ ':' :: after) →
      ∃ char ∈ gap, char ≠ '_') : NoColons (piece.filter (· ≠ '_')) := by
  induction piece with
  | nil => exact .nil
  | cons head rest ih =>
    have later : NoColons (rest.filter (· ≠ '_')) := ih fun before gap after written =>
      separated (head :: before) gap after (written ▸ rfl)
    by_cases underscore : head = '_'
    · rwa [List.filter_cons_of_neg (by simpa using underscore)]
    · rw [List.filter_cons_of_pos (by simpa using underscore)]
      refine .cons later ?_
      rintro next leads ⟨rfl, rfl⟩
      rw [List.head?_filter] at leads
      obtain ⟨-, gap, after, rfl, hollow⟩ := List.find?_eq_some_iff_append.mp leads
      obtain ⟨char, inside, plain⟩ := separated [] gap after rfl
      exact plain (by simpa using hollow char inside)

/-- **The segments of a regular name are well formed.** -/
theorem camelizeSegments_wellFormed {name segment : String} (regular : RegularName name)
    (listed : segment ∈ camelizeSegments name) : WellFormedSegment segment := by
  obtain ⟨slash, underscore⟩ := camelizeSegments_marks listed
  obtain ⟨piece, kept, rfl⟩ := List.mem_map.mp listed
  obtain ⟨found, written⟩ := List.mem_filter.mp kept
  have words : ∀ word ∈ Text.words isNameMark piece, ∃ char ∈ word, char ≠ '_' := by
    intro word inside
    have cuts : Text.Cuts isNameMark name.toList (pathPieces name.toList) :=
      (cuts_pathPieces name.toList).mono fun char mark => by
        unfold isNameMark
        rw [mark, Bool.true_or]
    exact regular word (cuts.mem_words found inside)
  obtain ⟨char, inside, plain⟩ := exists_ne_underscore (by simpa using written) words
  have apart := (pathPieces_clean name.toList piece found).2
  refine ⟨?_, slash, underscore, ?_⟩
  · rw [camelizeChars_eq]
    have kept : camelizeFrom true piece ≠ [] := camelizeFrom_ne_nil inside plain
    simpa using kept
  · rw [String.toList_ofList, camelizeChars_eq]
    have separated : NoColons (piece.filter (· ≠ '_')) :=
      NoColons.filter fun before gap after same => by
        subst same
        exact apart.exists_between words
    exact (NoColons.camelizeFrom separated).no_pair

end RouteTable
