/-
**JSON text is read back.**

The one-line text and the indented text of a datum differ in the blanks between their tokens. With
blanks of any kind the text is read back as the datum it was written for, if the datum holds no
number of double precision and each of its maps has different texts for keys. The one thing that
can go wrong is a whole number with too many digits, and then reading says how many it has.

* `Layout`, `Layout.line`, `Layout.indented`: where the blanks stand;
* `Datum.IsExact`, `Datum.excess?`: which data are read back;
* `Datum.texts_exact`, `Datum.object_exact`: lists of texts and maps with text keys;
* `Layout.readValue_chars`: the text of a datum is read up to its end;
* `read_line`, `read_indented`: the round trip;
* `write`: the text of a datum, where a number that is too long to be read is not written either.
-/

import RouteTable.Proofs.Assoc
import RouteTable.Proofs.Json.Scalar

namespace RouteTable

/-! ## Data that are read back -/

namespace Datum

/-- The keys of a map are texts, and no two of them are the same. -/
structure TextKeys (entries : List (Scalar × Datum)) : Prop where
  texts : ∀ entry ∈ entries, ∃ name, entry.1 = .text name
  distinct : (entries.map Prod.fst).Nodup

mutual

/-- No number is one of double precision, and the keys of maps are different texts. -/
def IsExact : Datum → Prop
  | .scalar value => value.IsExact
  | .list items => ItemsExact items
  | .map entries => TextKeys entries ∧ EntriesExact entries

/-- All items of a list are exact. -/
def ItemsExact : List Datum → Prop
  | [] => True
  | item :: rest => item.IsExact ∧ ItemsExact rest

/-- The values of all entries of a map are exact. -/
def EntriesExact : List (Scalar × Datum) → Prop
  | [] => True
  | (_, value) :: rest => value.IsExact ∧ EntriesExact rest

end

mutual

/-- How many digits the first number has that has too many. -/
def excess? : Datum → Option Nat
  | .scalar value => value.excess?
  | .list items => excessOfItems? items
  | .map entries => excessOfEntries? entries

/-- The same for the items of a list. -/
def excessOfItems? : List Datum → Option Nat
  | [] => none
  | item :: rest => item.excess?.or (excessOfItems? rest)

/-- The same for the values of a map. -/
def excessOfEntries? : List (Scalar × Datum) → Option Nat
  | [] => none
  | (_, value) :: rest => value.excess?.or (excessOfEntries? rest)

end

theorem itemsExact_of_forall {items : List Datum} (all : ∀ item ∈ items, item.IsExact) :
    ItemsExact items := by
  induction items with
  | nil => trivial
  | cons item rest ih =>
    exact ⟨all item List.mem_cons_self, ih fun later inside =>
      all later (List.mem_cons_of_mem _ inside)⟩

theorem texts_exact (contents : List String) : (texts contents).IsExact :=
  itemsExact_of_forall fun item inside => by
    obtain ⟨content, -, rfl⟩ := List.mem_map.mp inside
    trivial

theorem texts_excess (contents : List String) : (texts contents).excess? = none := by
  show excessOfItems? (contents.map Datum.text) = none
  induction contents with
  | nil => rfl
  | cons content rest ih => exact ih

theorem optionalText_exact (content : Option String) : (optionalText content).IsExact := by
  cases content <;> trivial

theorem entriesExact_of_forall {entries : List (Scalar × Datum)}
    (all : ∀ entry ∈ entries, entry.2.IsExact) : EntriesExact entries := by
  induction entries with
  | nil => trivial
  | cons entry rest ih =>
    exact ⟨all entry List.mem_cons_self, ih fun later inside =>
      all later (List.mem_cons_of_mem _ inside)⟩

/-- A map with different texts for keys is exact if its values are. -/
theorem object_exact {fields : List (String × Datum)} (distinct : (fields.map Prod.fst).Nodup)
    (values : EntriesExact (fields.map fun field => (Scalar.text field.1, field.2))) :
    (object fields).IsExact := by
  refine ⟨⟨fun entry inside => ?_, ?_⟩, values⟩
  · obtain ⟨field, -, rfl⟩ := List.mem_map.mp inside
    exact ⟨field.1, rfl⟩
  · rw [List.map_map, show Prod.fst ∘ _ = Scalar.text ∘ Prod.fst from rfl, ← List.map_map]
    exact List.Pairwise.map Scalar.text (fun _ _ other same => other (Scalar.text.inj same))
      distinct

end Datum

namespace Json

/-! ## Layouts -/

/-- The blanks in a text: after an opening bracket, after a comma and before a closing bracket,
inside `level` lists and maps. -/
structure Layout where
  opening : Nat → List Char
  between : Nat → List Char
  closing : Nat → List Char
  opening_blank : ∀ level, ∀ char ∈ opening level, isBlank char
  between_blank : ∀ level, ∀ char ∈ between level, isBlank char
  closing_blank : ∀ level, ∀ char ∈ closing level, isBlank char

theorem newline_blank (level : Nat) : ∀ char ∈ newline level, isBlank char := by
  intro char inside
  rcases List.mem_cons.mp inside with rfl | space
  · rfl
  · rw [List.eq_of_mem_replicate space]
    rfl

namespace Layout

/-- Everything on one line. -/
def line : Layout where
  opening _ := []
  between _ := [' ']
  closing _ := []
  opening_blank _ _ inside := nomatch inside
  between_blank _ _ inside := List.mem_singleton.mp inside ▸ rfl
  closing_blank _ _ inside := nomatch inside

/-- One entry a line. -/
def indented : Layout where
  opening level := newline (level + 1)
  between level := newline (level + 1)
  closing level := newline level
  opening_blank level := newline_blank (level + 1)
  between_blank level := newline_blank (level + 1)
  closing_blank level := newline_blank level

mutual

/-- The text of a datum inside `level` lists and maps. -/
def chars (layout : Layout) (level : Nat) : Datum → List Char
  | .scalar value => scalar value
  | .list [] => ['[', ']']
  | .list (first :: rest) =>
    '[' :: (layout.opening level ++ (chars layout (level + 1) first ++ items layout level rest))
  | .map [] => ['\x7b', '\x7d']
  | .map ((name, value) :: rest) =>
    '\x7b' :: (layout.opening level ++ (key name ++ ':' :: ' ' ::
      (chars layout (level + 1) value ++ entries layout level rest)))

/-- The items of a list after the first. -/
def items (layout : Layout) (level : Nat) : List Datum → List Char
  | [] => layout.closing level ++ [']']
  | item :: rest =>
    ',' :: (layout.between level ++ (chars layout (level + 1) item ++ items layout level rest))

/-- The entries of a map after the first. -/
def entries (layout : Layout) (level : Nat) : List (Scalar × Datum) → List Char
  | [] => layout.closing level ++ ['\x7d']
  | (name, value) :: rest =>
    ',' :: (layout.between level ++ (key name ++ ':' :: ' ' ::
      (chars layout (level + 1) value ++ entries layout level rest)))

end

mutual

theorem chars_line (level : Nat) : ∀ datum, line.chars level datum = lineChars datum
  | .scalar value => rfl
  | .list [] => rfl
  | .list (first :: rest) => by
    rw [chars, lineChars, chars_line (level + 1) first, items_line level rest]
    rfl
  | .map [] => rfl
  | .map ((name, value) :: rest) => by
    rw [chars, lineChars, chars_line (level + 1) value, entries_line level rest]
    rfl

theorem items_line (level : Nat) : ∀ list, line.items level list = lineItems list
  | [] => rfl
  | item :: rest => by
    rw [items, lineItems, chars_line (level + 1) item, items_line level rest]
    rfl

theorem entries_line (level : Nat) : ∀ list, line.entries level list = lineEntries list
  | [] => rfl
  | (name, value) :: rest => by
    rw [entries, lineEntries, chars_line (level + 1) value, entries_line level rest]
    rfl

end

mutual

theorem chars_indented (level : Nat) : ∀ datum,
    indented.chars level datum = indentedChars level datum
  | .scalar value => rfl
  | .list [] => rfl
  | .list (first :: rest) => by
    rw [chars, indentedChars, chars_indented (level + 1) first, items_indented level rest,
      List.append_assoc]
    rfl
  | .map [] => rfl
  | .map ((name, value) :: rest) => by
    rw [chars, indentedChars, chars_indented (level + 1) value, entries_indented level rest,
      List.append_assoc]
    rfl

theorem items_indented (level : Nat) : ∀ list,
    indented.items level list = indentedItems level list
  | [] => rfl
  | item :: rest => by
    rw [items, indentedItems, chars_indented (level + 1) item, items_indented level rest,
      List.append_assoc]
    rfl

theorem entries_indented (level : Nat) : ∀ list,
    indented.entries level list = indentedEntries level list
  | [] => rfl
  | (name, value) :: rest => by
    rw [entries, indentedEntries, chars_indented (level + 1) value, entries_indented level rest,
      List.append_assoc]
    rfl

end

end Layout

/-! ## Blanks -/

theorem skipBlanks_of_not {head : Char} (token : isBlank head = false) (rest : List Char) :
    skipBlanks (head :: rest) = head :: rest := by
  rw [skipBlanks, List.dropWhile_cons, token]
  rfl

theorem skipBlanks_append {blanks : List Char} (all : ∀ char ∈ blanks, isBlank char)
    (rest : List Char) : skipBlanks (blanks ++ rest) = skipBlanks rest :=
  List.dropWhile_append_of_pos all

/-- Blanks before a character that ends a number end it too. -/
theorem endsNumber_blanks {blanks rest : List Char} (all : ∀ char ∈ blanks, isBlank char)
    (ends : EndsNumber rest) : EndsNumber (blanks ++ rest) := by
  cases blanks with
  | nil => exact ends
  | cons head tail =>
    rintro char ⟨⟩
    have blank := all head List.mem_cons_self
    simp only [isBlank, Bool.or_eq_true, decide_eq_true_eq] at blank
    rcases blank with ((rfl | rfl) | rfl) | rfl <;> decide

/-- The first character of a value is no blank and closes no list. -/
def BeginsValue (text : List Char) : Prop :=
  ∃ head rest, text = head :: rest ∧ isBlank head = false ∧ head ≠ ']'

/-- The blanks before a value are passed over. -/
theorem skipBlanks_value {blanks text : List Char} (all : ∀ char ∈ blanks, isBlank char)
    (begins : BeginsValue text) (rest : List Char) :
    skipBlanks (blanks ++ (text ++ rest)) = text ++ rest := by
  obtain ⟨head, tail, rfl, token, -⟩ := begins
  rw [skipBlanks_append all, List.cons_append, skipBlanks_of_not token]

theorem scalar_eq_plain {value : Scalar} (noText : ∀ content, value ≠ .text content) :
    scalar value = plain value := by
  cases value with
  | text content => exact absurd rfl (noText content)
  | _ => rfl

/-- A scalar is a text or is written without quotes. -/
theorem scalar_cases {value : Scalar} (exact : value.IsExact) :
    (∃ content, value = .text content) ∨
      (∀ content, value ≠ .text content) ∧
        ∃ head rest, scalar value = head :: rest ∧ beginsPlain head := by
  by_cases text : ∃ content, value = .text content
  · exact .inl text
  · have noText : ∀ content, value ≠ .text content := fun content same => text ⟨content, same⟩
    exact .inr ⟨noText, scalar_eq_plain noText ▸ plain_begins exact noText⟩

theorem scalar_begins {value : Scalar} (exact : value.IsExact) : BeginsValue (scalar value) := by
  rcases scalar_cases exact with ⟨content, rfl⟩ | ⟨-, head, rest, same, begins⟩
  · exact ⟨_, _, rfl, rfl, by decide⟩
  · have other {char : Char} := @ne_of_kind beginsPlain head char begins
    refine ⟨head, rest, same, ?_, other (by decide)⟩
    simp [isBlank, other (show beginsPlain ' ' = false by decide),
      other (show beginsPlain '\t' = false by decide),
      other (show beginsPlain '\n' = false by decide),
      other (show beginsPlain '\r' = false by decide)]

theorem readValue_scalar {value : Scalar} (exact : value.IsExact) (fuel : Nat) {rest : List Char}
    (ends : EndsNumber rest) :
    readValue (fuel + 1) (scalar value ++ rest) = checked value.excess? (.scalar value, rest) := by
  rcases scalar_cases exact with ⟨content, rfl⟩ | ⟨noText, head, tail, same, begins⟩
  · rw [scalar, quote, List.cons_append, List.append_assoc, List.singleton_append, readValue,
      readText_escaped]
    rfl
  · have read := readPlain_plain exact noText ends
    have other {char : Char} := @ne_of_kind beginsPlain head char begins
    have plainly : readValue (fuel + 1) (scalar value ++ rest) =
        (readPlain (scalar value ++ rest)).map fun found => (.scalar found.1, found.2) := by
      rw [same, List.cons_append, readValue]
      · exact fun _ same => other (by decide) (List.cons.inj same).1
      · exact fun _ same => other (by decide) (List.cons.inj same).1
      · exact fun _ same => other (by decide) (List.cons.inj same).1
    rw [plainly, scalar_eq_plain noText, read]
    cases value.excess? <;> rfl

namespace Layout

variable (layout : Layout) (level : Nat)

theorem chars_begins {datum : Datum} (exact : datum.IsExact) :
    BeginsValue (layout.chars level datum) := by
  cases datum with
  | scalar value => exact scalar_begins exact
  | list items => cases items <;> exact ⟨_, _, rfl, rfl, by decide⟩
  | map entries => cases entries <;> exact ⟨_, _, rfl, rfl, by decide⟩

theorem items_end (list : List Datum) (rest : List Char) :
    EndsNumber (layout.items level list ++ rest) := by
  cases list with
  | nil =>
    rw [items, List.append_assoc]
    refine endsNumber_blanks (layout.closing_blank level) ?_
    rintro char ⟨⟩
    decide
  | cons item later =>
    rintro char ⟨⟩
    decide

theorem entries_end (list : List (Scalar × Datum)) (rest : List Char) :
    EndsNumber (layout.entries level list ++ rest) := by
  cases list with
  | nil =>
    rw [entries, List.append_assoc]
    refine endsNumber_blanks (layout.closing_blank level) ?_
    rintro char ⟨⟩
    decide
  | cons entry later =>
    rintro char ⟨⟩
    decide

/-- A value at the start of a text is read up to its end. -/
def ReadsBack (datum : Datum) : Prop :=
  ∀ fuel rest, (layout.chars level datum).length ≤ fuel → EndsNumber rest →
    readValue fuel (layout.chars level datum ++ rest) = checked datum.excess? (datum, rest)

variable {layout level}

/-- **The items of a list are read up to its closing bracket**, after those in `read`. -/
theorem readItems_chars (tail : List Datum)
    (back : ∀ item ∈ tail, layout.ReadsBack (level + 1) item) (exact : Datum.ItemsExact tail)
    {first : Datum} (firstBack : layout.ReadsBack (level + 1) first) (read : List Datum)
    (fuel : Nat) (rest : List Char)
    (enough : (layout.chars (level + 1) first ++ layout.items level tail).length ≤ fuel) :
    readItems fuel read
        (layout.chars (level + 1) first ++ (layout.items level tail ++ rest)) =
      checked (first.excess?.or (Datum.excessOfItems? tail))
        (.list (read.reverse ++ first :: tail), rest) := by
  induction tail generalizing first read fuel with
  | nil =>
    rw [items, List.length_append, List.length_append, List.length_singleton] at enough
    obtain ⟨fuel, rfl, -⟩ := exists_less (show 0 < fuel by omega)
    rw [readItems, firstBack fuel _ (by omega) (layout.items_end level [] rest)]
    cases first.excess? with
    | some digits => rfl
    | none =>
      have closed : skipBlanks (layout.items level [] ++ rest) = ']' :: rest := by
        rw [items, List.append_assoc, skipBlanks_append (layout.closing_blank level)]
        exact skipBlanks_of_not rfl rest
      dsimp only [checked]
      rw [closed, List.reverse_cons]
      rfl
  | cons second later ih =>
    rw [items, List.length_append, List.length_cons, List.length_append] at enough
    obtain ⟨fuel, rfl, -⟩ := exists_less (show 0 < fuel by omega)
    rw [readItems, firstBack fuel _ (by omega) (layout.items_end level (second :: later) rest)]
    cases first.excess? with
    | some digits => rfl
    | none =>
      have next := ih (fun item inside => back item (List.mem_cons_of_mem _ inside)) exact.2
        (back second List.mem_cons_self) (first :: read) fuel (by omega)
      rw [List.reverse_cons, List.append_assoc, List.singleton_append] at next
      have comma : skipBlanks (layout.items level (second :: later) ++ rest) =
          layout.items level (second :: later) ++ rest := skipBlanks_of_not rfl _
      dsimp only [checked]
      rw [comma, items, List.cons_append, List.append_assoc, List.append_assoc]
      show readItems fuel (first :: read) (skipBlanks _) = _
      rw [skipBlanks_value (layout.between_blank level) (layout.chars_begins (level + 1) exact.1),
        next]
      rfl

theorem readValue_space {datum : Datum} (exact : datum.IsExact)
    (back : layout.ReadsBack level datum) {fuel : Nat}
    (enough : (layout.chars level datum).length ≤ fuel) {rest : List Char}
    (ends : EndsNumber rest) :
    readValue fuel (skipBlanks (' ' :: (layout.chars level datum ++ rest))) =
      checked datum.excess? (datum, rest) := by
  have skipped :=
    @skipBlanks_value [' '] _ (List.all_eq_true.mp rfl) (layout.chars_begins level exact) rest
  rw [List.singleton_append] at skipped
  rw [skipped]
  exact back fuel rest enough ends

theorem key_begins (name : String) : BeginsValue (key (.text name)) :=
  ⟨_, _, rfl, rfl, by decide⟩

/-- Of different keys, the first of the later ones is not among the earlier ones. -/
theorem key_new {read : Assoc Scalar Datum} {name : Scalar} {later : List Scalar}
    (distinct : (read.keys ++ name :: later).Nodup) : name ∉ read.keys := fun inside =>
  (List.nodup_append.mp distinct).2.2 name inside name List.mem_cons_self rfl

theorem readEntries_key (fuel : Nat) (read : Assoc Scalar Datum) (name : String)
    (text : List Char) :
    readEntries (fuel + 1) read (key (.text name) ++ ':' :: text) =
      match readValue fuel (skipBlanks text) with
      | .error fault => .error fault
      | .ok (value, afterValue) =>
        let entries := read.put (.text name) value
        match skipBlanks afterValue with
        | ',' :: after => readEntries fuel entries (skipBlanks after)
        | '\x7d' :: after => .ok (.map entries, after)
        | _ => .error .malformed := by
  rw [key, plain, String.ofList_toList, quote, List.cons_append, List.append_assoc,
    List.singleton_append, readEntries, readText_escaped]
  dsimp only
  rw [skipBlanks_of_not rfl]
  rfl

/-- **The entries of a map are read up to its closing brace**, after those in `read`. -/
theorem readEntries_chars (tail : List (Scalar × Datum))
    (back : ∀ entry ∈ tail, layout.ReadsBack (level + 1) entry.2)
    (texts : ∀ entry ∈ tail, ∃ name, entry.1 = .text name)
    (exact : Datum.EntriesExact tail) {name : String} {first : Datum} (firstExact : first.IsExact)
    (firstBack : layout.ReadsBack (level + 1) first) (read : Assoc Scalar Datum)
    (distinct : (read.keys ++ .text name :: tail.map Prod.fst).Nodup) (fuel : Nat)
    (rest : List Char)
    (enough :
      (layout.chars (level + 1) first ++ layout.entries level tail).length < fuel) :
    readEntries fuel read (key (.text name) ++ ':' :: ' ' ::
        (layout.chars (level + 1) first ++ (layout.entries level tail ++ rest))) =
      checked (first.excess?.or (Datum.excessOfEntries? tail))
        (.map (read ++ (.text name, first) :: tail), rest) := by
  induction tail generalizing name first read fuel with
  | nil =>
    rw [entries, List.length_append, List.length_append, List.length_singleton] at enough
    obtain ⟨fuel, rfl, -⟩ := exists_less (show 0 < fuel by omega)
    rw [readEntries_key, readValue_space firstExact firstBack (by omega)
      (layout.entries_end level [] rest)]
    cases first.excess? with
    | some digits => rfl
    | none =>
      have closed : skipBlanks (layout.entries level [] ++ rest) = '\x7d' :: rest := by
        rw [entries, List.append_assoc, skipBlanks_append (layout.closing_blank level)]
        exact skipBlanks_of_not rfl rest
      dsimp only [checked]
      rw [closed, Assoc.put_new (key_new distinct)]
      rfl
  | cons second later ih =>
    obtain ⟨secondName, value⟩ := second
    obtain ⟨secondName, rfl⟩ := texts _ List.mem_cons_self
    rw [entries, List.length_append, List.length_cons, List.length_append, List.length_append,
      List.length_cons, List.length_cons] at enough
    obtain ⟨fuel, rfl, -⟩ := exists_less (show 0 < fuel by omega)
    rw [readEntries_key, readValue_space firstExact firstBack (by omega)
      (layout.entries_end level (_ :: later) rest)]
    cases first.excess? with
    | some digits => rfl
    | none =>
      have keys : Assoc.keys (read ++ [(.text name, first)]) = read.keys ++ [.text name] := by
        rw [Assoc.keys, List.map_append]
        rfl
      have next := ih (fun entry inside => back entry (List.mem_cons_of_mem _ inside))
        (fun entry inside => texts entry (List.mem_cons_of_mem _ inside)) exact.2 exact.1
        (back _ List.mem_cons_self) (read ++ [(.text name, first)])
        (by rwa [keys, List.append_assoc, List.singleton_append]) fuel (by omega)
      rw [List.append_assoc, List.singleton_append] at next
      have comma : skipBlanks (layout.entries level ((.text secondName, value) :: later) ++ rest) =
          layout.entries level ((.text secondName, value) :: later) ++ rest :=
        skipBlanks_of_not rfl _
      dsimp only [checked]
      rw [comma, Assoc.put_new (key_new distinct), entries, List.cons_append, List.append_assoc,
        List.append_assoc, List.cons_append, List.cons_append, List.append_assoc]
      show readEntries fuel _ (skipBlanks _) = _
      rw [skipBlanks_value (layout.between_blank level) (key_begins secondName), next]
      rfl

theorem readValue_list (fuel : Nat) {blanks text : List Char}
    (all : ∀ char ∈ blanks, isBlank char) (begins : BeginsValue text) (rest : List Char) :
    readValue (fuel + 1) ('[' :: (blanks ++ (text ++ rest))) =
      readItems fuel [] (text ++ rest) := by
  rw [readValue, skipBlanks_value all begins]
  obtain ⟨head, tail, rfl, -, noEnd⟩ := begins
  rw [List.cons_append]
  split
  · next same => exact absurd (List.cons.inj same).1 noEnd
  · rfl

theorem readValue_map (fuel : Nat) {blanks : List Char} (all : ∀ char ∈ blanks, isBlank char)
    (name : String) (rest : List Char) :
    readValue (fuel + 1) ('\x7b' :: (blanks ++ (key (.text name) ++ rest))) =
      readEntries fuel [] (key (.text name) ++ rest) := by
  rw [readValue, skipBlanks_value all (key_begins name)]
  rfl

variable (layout)

mutual

/-- **The text of a datum is read up to its end.** -/
theorem readValue_chars : ∀ (datum : Datum) (level : Nat), datum.IsExact →
    layout.ReadsBack level datum
  | .scalar value, level, exact => by
    intro fuel rest enough ends
    obtain ⟨head, tail, same, -⟩ := scalar_begins exact
    rw [chars, same] at enough
    obtain ⟨fuel, rfl, -⟩ := exists_less enough
    exact readValue_scalar exact fuel ends
  | .list [], level, exact => by
    intro fuel rest enough ends
    obtain ⟨fuel, rfl, -⟩ := exists_less enough
    rw [chars, List.cons_append, List.singleton_append, readValue, skipBlanks_of_not rfl]
    rfl
  | .list (first :: later), level, exact => by
    intro fuel rest enough ends
    rw [chars] at enough
    obtain ⟨fuel, rfl, left⟩ := exists_less enough
    rw [List.length_append] at left
    rw [chars, List.cons_append, List.append_assoc, List.append_assoc,
      readValue_list fuel (layout.opening_blank level) (layout.chars_begins (level + 1) exact.1),
      readItems_chars later (readValue_items later (level + 1) exact.2) exact.2
        (readValue_chars first (level + 1) exact.1) [] fuel rest (by omega)]
    rfl
  | .map [], level, exact => by
    intro fuel rest enough ends
    obtain ⟨fuel, rfl, -⟩ := exists_less enough
    rw [chars, List.cons_append, List.singleton_append, readValue, skipBlanks_of_not rfl]
    rfl
  | .map ((name, first) :: later), level, exact => by
    intro fuel rest enough ends
    obtain ⟨keys, values⟩ := exact
    obtain ⟨name, rfl⟩ := keys.texts _ List.mem_cons_self
    rw [chars] at enough
    obtain ⟨fuel, rfl, left⟩ := exists_less enough
    rw [List.length_append, List.length_append, List.length_cons, List.length_cons] at left
    rw [chars, List.cons_append, List.append_assoc, List.append_assoc, List.cons_append,
      List.cons_append, List.append_assoc, readValue_map fuel (layout.opening_blank level),
      readEntries_chars later (readValue_entries later (level + 1) values.2)
        (fun entry inside => keys.texts entry (List.mem_cons_of_mem _ inside)) values.2 values.1
        (readValue_chars first (level + 1) values.1) [] keys.distinct fuel rest (by omega)]
    rfl

theorem readValue_items : ∀ (list : List Datum) (level : Nat), Datum.ItemsExact list →
    ∀ item ∈ list, layout.ReadsBack level item
  | [], _, _ => nofun
  | first :: later, level, exact =>
    List.forall_mem_cons.mpr
      ⟨readValue_chars first level exact.1, readValue_items later level exact.2⟩

theorem readValue_entries : ∀ (list : List (Scalar × Datum)) (level : Nat),
    Datum.EntriesExact list → ∀ entry ∈ list, layout.ReadsBack level entry.2
  | [], _, _ => nofun
  | (_, first) :: later, level, exact =>
    List.forall_mem_cons.mpr
      ⟨readValue_chars first level exact.1, readValue_entries later level exact.2⟩

end

/-- **A text is read back as the datum it was written for**, whatever blanks follow, unless it holds
a number with too many digits. -/
theorem read_chars {datum : Datum} (exact : datum.IsExact) {blanks : List Char}
    (all : ∀ char ∈ blanks, isBlank char) :
    read (String.ofList (layout.chars 0 datum ++ blanks)) = checked datum.excess? datum := by
  have begins := layout.chars_begins 0 exact
  have start : skipBlanks (layout.chars 0 datum ++ blanks) = layout.chars 0 datum ++ blanks :=
    @skipBlanks_value [] _ nofun begins blanks
  have ends : EndsNumber blanks := List.append_nil blanks ▸ endsNumber_blanks all nofun
  have rest : skipBlanks blanks = [] := List.append_nil blanks ▸ skipBlanks_append all []
  rw [read, String.toList_ofList, start,
    layout.readValue_chars datum 0 exact _ blanks (by rw [List.length_append]; omega) ends]
  cases datum.excess? with
  | some digits => rfl
  | none =>
    show (if (skipBlanks blanks).isEmpty then Except.ok datum else .error Fault.malformed) = _
    rw [rest]
    rfl

end Layout

/-- **The one-line text of a datum is read back.** -/
theorem read_line {datum : Datum} (exact : datum.IsExact) :
    read (line datum) = checked datum.excess? datum := by
  rw [line, ← Layout.chars_line 0 datum, ← List.append_nil (Layout.line.chars 0 datum)]
  exact Layout.line.read_chars exact nofun

/-- The one-line text of a datum. A number with too many digits is refused, as it is on reading. -/
def write (datum : Datum) : Except Fault String := checked datum.excess? (line datum)

/-- **The indented text of a datum is read back**, with the line feed after it. -/
theorem read_indented {datum : Datum} (exact : datum.IsExact) :
    read (indented datum ++ "\n") = checked datum.excess? datum := by
  rw [indented, ← Layout.chars_indented 0 datum, show "\n" = String.ofList ['\n'] from rfl,
    ← String.ofList_append]
  exact Layout.indented.read_chars exact (List.all_eq_true.mp rfl)

end Json

end RouteTable
