/-
**Texts that are cut into parts.**

A text is cut if it is the parts in order with separators between each two. The pieces of a text
are such parts, and so are what stands before and after a mark and what is joined by separators.
The words of a text are then those of its parts, one part after the other.

* `words_append_cons`: words are cut at every separator;
* `words_strip`: words are not changed by separators around the text;
* `Cuts.words_eq`: the words of a text are the words of its parts;
* `Cuts.mem_of_mem_part`, `Cuts.mem_part`: the characters of a text are those of its parts and the
  separators;
* `cuts_pieces`, `cuts_cutAt`, `cuts_intercalate`: where parts come from;
* `intercalate_inj`: joined parts are told apart by what joins them;
* `flatMap_words`: words that are cut again;
* `strip_of_words`: a text of one word is that word with separators around it.
-/

import RouteTable.Text.Pieces
import Mathlib.Data.List.TakeWhile

namespace RouteTable.Text

variable {separates : Char → Bool}

/-! ## Words -/

theorem pieces_append_cons (text : List Char) {mark : Char} (cut : separates mark = true)
    (rest : List Char) :
    pieces separates (text ++ mark :: rest) = pieces separates text ++ pieces separates rest := by
  induction text with
  | nil =>
    show pieces separates (mark :: rest) = [] :: pieces separates rest
    rw [pieces, if_pos cut]
  | cons head text ih =>
    rw [List.cons_append, pieces, pieces, ih]
    split
    · rfl
    · obtain ⟨first, others, found⟩ := List.exists_cons_of_ne_nil (pieces_ne_nil separates text)
      rw [found]
      rfl

theorem words_append_cons (text : List Char) {mark : Char} (cut : separates mark = true)
    (rest : List Char) :
    words separates (text ++ mark :: rest) = words separates text ++ words separates rest := by
  rw [words, pieces_append_cons text cut, List.filter_append]
  rfl

/-- Separators hold no word. -/
theorem words_append_left {marks : List Char} (cut : ∀ mark ∈ marks, separates mark = true)
    (rest : List Char) : words separates (marks ++ rest) = words separates rest := by
  induction marks with
  | nil => rfl
  | cons mark marks ih =>
    have later := ih fun other inside => cut other (List.mem_cons_of_mem _ inside)
    rw [List.cons_append, ← later]
    exact words_append_cons [] (cut mark List.mem_cons_self) (marks ++ rest)

theorem words_append_right (text : List Char) {marks : List Char}
    (cut : ∀ mark ∈ marks, separates mark = true) :
    words separates (text ++ marks) = words separates text := by
  cases marks with
  | nil => rw [List.append_nil]
  | cons mark marks =>
    have gap := words_append_left (fun other inside => cut other (List.mem_cons_of_mem _ inside)) []
    rw [List.append_nil] at gap
    rw [words_append_cons text (cut mark List.mem_cons_self), gap]
    exact List.append_nil _

/-- Separators around a text hold no word. -/
theorem words_strip (text : List Char) :
    words separates (strip separates text) = words separates text := by
  have stripped (text : List Char) : ∀ mark ∈ text.takeWhile separates, separates mark = true :=
    fun mark inside => List.mem_takeWhile_imp inside
  generalize rest : text.dropWhile separates = bare
  have after : strip separates text ++ (bare.reverse.takeWhile separates).reverse = bare := by
    rw [strip, rest, ← List.reverse_append, List.takeWhile_append_dropWhile, List.reverse_reverse]
  have right : words separates bare = words separates (strip separates text) := by
    rw [← after]
    exact words_append_right _ fun mark inside => stripped _ mark (List.mem_reverse.mp inside)
  have left : words separates text = words separates bare := by
    rw [← rest, ← words_append_left (stripped text) (text.dropWhile separates),
      List.takeWhile_append_dropWhile]
  exact (left.trans right).symm

/-- A text without a separator is one piece. -/
theorem pieces_of_clean {text : List Char} (clean : ∀ char ∈ text, separates char = false) :
    pieces separates text = [text] := by
  induction text with
  | nil => rfl
  | cons head rest ih =>
    have plain : ¬separates head = true := by simp [clean head List.mem_cons_self]
    rw [pieces, if_neg plain, ih fun char inside => clean char (List.mem_cons_of_mem _ inside)]

/-- A text without a separator is one word, if there is anything in it. -/
theorem words_of_clean {text : List Char} (clean : ∀ char ∈ text, separates char = false)
    (written : text ≠ []) : words separates text = [text] := by
  rw [words, pieces_of_clean clean]
  simp [written]

/-! ## Parts -/

/-- The text is the parts in order, with one or more separators between each two. -/
inductive Cuts (separates : Char → Bool) : List Char → List (List Char) → Prop
  | whole (part : List Char) : Cuts separates part [part]
  | cut (part : List Char) {marks rest : List Char} {others : List (List Char)} :
      marks ≠ [] → (∀ mark ∈ marks, separates mark = true) → Cuts separates rest others →
      Cuts separates (part ++ marks ++ rest) (part :: others)

namespace Cuts

theorem mono {coarse : Char → Bool} (finer : ∀ char, coarse char = true → separates char = true)
    {text : List Char} {parts : List (List Char)} (cuts : Cuts coarse text parts) :
    Cuts separates text parts := by
  induction cuts with
  | whole part => exact .whole part
  | cut part some each _ ih =>
    exact .cut part some (fun mark inside => finer mark (each mark inside)) ih

/-- A character before the text belongs to its first part. -/
theorem cons {text first : List Char} {others : List (List Char)}
    (cuts : Cuts separates text (first :: others)) (head : Char) :
    Cuts separates (head :: text) ((head :: first) :: others) := by
  cases cuts with
  | whole => exact .whole _
  | cut _ some each rest => exact .cut (head :: first) some each rest

/-- Separators before the text are cut off. -/
theorem afterMarks {text : List Char} {parts : List (List Char)} (cuts : Cuts separates text parts)
    {marks : List Char} (some : marks ≠ []) (each : ∀ mark ∈ marks, separates mark = true) :
    Cuts separates (marks ++ text) ([] :: parts) :=
  .cut [] some each cuts

/-- **The words of a text are the words of its parts.** -/
theorem words_eq {text : List Char} {parts : List (List Char)} (cuts : Cuts separates text parts) :
    words separates text = parts.flatMap (words separates) := by
  induction cuts with
  | whole part => rw [List.flatMap_cons, List.flatMap_nil, List.append_nil]
  | @cut part marks rest others some each _ ih =>
    obtain ⟨mark, marks, rfl⟩ := List.exists_cons_of_ne_nil some
    have gap : words separates (marks ++ rest) = words separates rest :=
      words_append_left (fun other inside => each other (List.mem_cons_of_mem _ inside)) rest
    rw [List.append_assoc, List.cons_append, words_append_cons part (each mark List.mem_cons_self),
      gap, ih, List.flatMap_cons]

/-- Each word of a part is a word of the text. -/
theorem mem_words {text part word : List Char} {parts : List (List Char)}
    (cuts : Cuts separates text parts) (listed : part ∈ parts)
    (inside : word ∈ words separates part) : word ∈ words separates text := by
  rw [cuts.words_eq]
  exact List.mem_flatMap.mpr ⟨part, listed, inside⟩

/-- What stands in a part stands in the text. -/
theorem mem_of_mem_part {text part : List Char} {parts : List (List Char)}
    (cuts : Cuts separates text parts) (listed : part ∈ parts) {char : Char}
    (inside : char ∈ part) : char ∈ text := by
  induction cuts with
  | whole only => exact List.mem_singleton.mp listed ▸ inside
  | cut first _ _ _ ih =>
    rcases List.mem_cons.mp listed with rfl | later
    · exact List.mem_append_left _ (List.mem_append_left _ inside)
    · exact List.mem_append_right _ (ih later)

/-- What stands in the text separates its parts or stands in one of them. -/
theorem mem_part {text : List Char} {parts : List (List Char)} (cuts : Cuts separates text parts)
    {char : Char} (inside : char ∈ text) :
    separates char = true ∨ ∃ part ∈ parts, char ∈ part := by
  induction cuts with
  | whole only => exact .inr ⟨only, List.mem_cons_self, inside⟩
  | cut first _ each _ ih =>
    rcases List.mem_append.mp inside with front | later
    · rcases List.mem_append.mp front with first | mark
      · exact .inr ⟨_, List.mem_cons_self, first⟩
      · exact .inl (each char mark)
    · exact (ih later).imp_right fun ⟨part, listed, inside⟩ =>
        ⟨part, List.mem_cons_of_mem first listed, inside⟩

/-- What the first part begins with, the text begins with. -/
theorem mem_head? {text first : List Char} {others : List (List Char)}
    (cuts : Cuts separates text (first :: others)) {char : Char} (leads : char ∈ first.head?) :
    char ∈ text.head? := by
  obtain ⟨rest, rfl⟩ := List.head?_eq_some_iff.mp leads
  cases cuts with
  | whole => exact rfl
  | cut => exact rfl

end Cuts

/-! ## Where parts come from -/

theorem cuts_pieces (separates : Char → Bool) (text : List Char) :
    Cuts separates text (pieces separates text) := by
  induction text with
  | nil => exact .whole []
  | cons head rest ih =>
    rw [pieces]
    split
    · next mark => exact ih.afterMarks (List.cons_ne_nil head []) (by simpa using mark)
    · obtain ⟨first, others, found⟩ := List.exists_cons_of_ne_nil (pieces_ne_nil separates rest)
      rw [found] at ih ⊢
      exact ih.cons head

/-- A mark between two parts. -/
theorem cuts_cutAt {mark : Char} (separated : separates mark = true) {text : List Char}
    {parts : List Char × List Char} (found : cutAt mark text = some parts) :
    Cuts separates text [parts.1, parts.2] := by
  induction text generalizing parts with
  | nil => cases found
  | cons head rest ih =>
    rw [cutAt] at found
    split at found
    · next same =>
      obtain rfl := Option.some.inj found
      subst same
      exact (Cuts.whole rest).afterMarks (List.cons_ne_nil head []) (by simpa using separated)
    · obtain ⟨later, cut, rfl⟩ := Option.map_eq_some_iff.mp found
      exact (ih cut).cons head

/-- Parts that are joined by separators. -/
theorem cuts_intercalate {between : List Char} (some : between ≠ [])
    (each : ∀ mark ∈ between, separates mark = true) {parts : List (List Char)} (any : parts ≠ []) :
    Cuts separates (between.intercalate parts) parts := by
  induction parts with
  | nil => exact absurd rfl any
  | cons part others ih =>
    cases others with
    | nil => simpa using Cuts.whole part
    | cons next later =>
      rw [List.intercalate_cons_cons]
      exact .cut part some each (ih (List.cons_ne_nil next later))

/-- The first mark in a text ends the part before it. -/
theorem append_mark_inj {mark : Char} {part other rest later : List Char} (clean : mark ∉ part)
    (plain : mark ∉ other) (same : part ++ mark :: rest = other ++ mark :: later) :
    part = other ∧ rest = later := by
  induction part generalizing other with
  | nil =>
    cases other with
    | nil => exact ⟨rfl, (List.cons.inj same).2⟩
    | cons head other => exact absurd ((List.cons.inj same).1 ▸ List.mem_cons_self) plain
  | cons head part ih =>
    cases other with
    | nil => exact absurd ((List.cons.inj same).1 ▸ List.mem_cons_self) clean
    | cons first other =>
      obtain ⟨rfl, further⟩ := List.cons.inj same
      obtain ⟨rfl, follows⟩ := ih (mt (List.mem_cons_of_mem _) clean)
        (mt (List.mem_cons_of_mem _) plain) further
      exact ⟨rfl, follows⟩

/-- Joined parts are told apart if the first character between them is in none of them. -/
theorem intercalate_inj {mark : Char} {tail : List Char} {parts others : List (List Char)}
    (clean : ∀ part ∈ parts, mark ∉ part) (plain : ∀ part ∈ others, mark ∉ part)
    (any : parts ≠ []) (some : others ≠ [])
    (same : (mark :: tail).intercalate parts = (mark :: tail).intercalate others) :
    parts = others := by
  have marked (part next : List Char) (later : List (List Char)) :
      (mark :: tail).intercalate (part :: next :: later) =
        part ++ mark :: (tail ++ (mark :: tail).intercalate (next :: later)) := by
    rw [List.intercalate_cons_cons, List.append_assoc, List.cons_append]
  induction parts generalizing others with
  | nil => exact absurd rfl any
  | cons part parts ih =>
    obtain ⟨other, others, rfl⟩ := List.exists_cons_of_ne_nil some
    have bare : mark ∉ part := clean part List.mem_cons_self
    have free : mark ∉ other := plain other List.mem_cons_self
    match parts, others with
    | [], [] => simpa using same
    | [], next :: later =>
      rw [marked, List.intercalate_singleton] at same
      exact absurd (same ▸ by simp) bare
    | next :: later, [] =>
      rw [marked, List.intercalate_singleton] at same
      exact absurd (same ▸ by simp) free
    | next :: later, following :: rest =>
      rw [marked, marked] at same
      obtain ⟨rfl, further⟩ := append_mark_inj bare free same
      refine congrArg (part :: ·) (ih ?_ ?_ (List.cons_ne_nil _ _) (List.cons_ne_nil _ _)
        (List.append_cancel_left further))
      · exact fun piece inside => clean piece (List.mem_cons_of_mem _ inside)
      · exact fun piece inside => plain piece (List.mem_cons_of_mem _ inside)

/-! ## Words again -/

/-- What is no separator stands in a word. -/
theorem words_ne_nil {text : List Char} {char : Char} (inside : char ∈ text)
    (plain : separates char = false) : words separates text ≠ [] := by
  obtain mark | ⟨piece, listed, within⟩ := (cuts_pieces separates text).mem_part inside
  · rw [plain] at mark
    cases mark
  · refine List.ne_nil_of_mem (List.mem_filter.mpr ⟨listed, ?_⟩)
    simpa using List.ne_nil_of_mem within

/-- Words that are cut again are the words of the text, if every separator cuts again. -/
theorem flatMap_words {coarse : Char → Bool}
    (finer : ∀ char, coarse char = true → separates char = true) (text : List Char) :
    (words coarse text).flatMap (words separates) = words separates text := by
  have dropped (parts : List (List Char)) :
      (parts.filter fun part => !part.isEmpty).flatMap (words separates) =
        parts.flatMap (words separates) := by
    induction parts with
    | nil => rfl
    | cons part others ih =>
      cases part with
      | nil => exact ih
      | cons head rest =>
        rw [List.filter_cons_of_pos rfl, List.flatMap_cons, List.flatMap_cons, ih]
  rw [words, dropped, ← ((cuts_pieces coarse text).mono finer).words_eq]

/-- A stripped text begins with no separator and ends with none. -/
theorem strip_ends (text : List Char) :
    (∀ char ∈ (strip separates text).head?, separates char = false) ∧
      ∀ char ∈ (strip separates text).getLast?, separates char = false := by
  have first (text : List Char) :
      ∀ char ∈ (text.dropWhile separates).head?, separates char = false := by
    intro char leads
    have plain := List.head?_dropWhile_not separates text
    rwa [Option.mem_def.mp leads] at plain
  constructor
  · intro char leads
    have front : strip separates text <+: text.dropWhile separates := by
      rw [← List.reverse_suffix, strip, List.reverse_reverse]
      exact List.dropWhile_suffix separates
    obtain ⟨rest, same⟩ := front
    refine first text char ?_
    rw [← same, List.head?_append, Option.mem_def.mp leads]
    rfl
  · intro char last
    rw [strip, List.getLast?_reverse] at last
    exact first _ char last

/-- A text of one word is that word with separators around it. -/
theorem strip_of_words {text word : List Char} (only : words separates text = [word]) :
    strip separates text = word := by
  have ends : (∀ char ∈ (strip separates text).head?, separates char = false) ∧
      ∀ char ∈ (strip separates text).getLast?, separates char = false := strip_ends text
  rw [← words_strip] at only
  generalize strip separates text = bare at *
  obtain ⟨head, last⟩ := ends
  by_cases clean : ∀ char ∈ bare, separates char = false
  · have written : bare ≠ [] := by
      rintro rfl
      cases only
    rw [words_of_clean clean written] at only
    exact List.singleton_inj.mp only
  · -- a separator further inside would cut the text into two words at least
    obtain ⟨mark, inside, cut⟩ : ∃ mark ∈ bare, separates mark = true := by
      simpa using clean
    obtain ⟨before, after, rfl⟩ := List.append_of_mem inside
    have front : words separates before ≠ [] := by
      cases before with
      | nil => simp [cut] at head
      | cons first rest => exact words_ne_nil List.mem_cons_self (head first rfl)
    have back : words separates after ≠ [] := by
      cases found : after.getLast? with
      | none =>
        obtain rfl := List.getLast?_eq_none_iff.mp found
        simp [cut] at last
      | some char =>
        refine words_ne_nil (List.mem_of_getLast? found) (last char ?_)
        simp [List.getLast?_append, List.getLast?_cons, found]
    rw [words_append_cons before cut] at only
    have two := congrArg List.length only
    rw [List.length_append, List.length_singleton] at two
    have some := List.length_pos_iff.mpr front
    have more := List.length_pos_iff.mpr back
    omega

end RouteTable.Text
