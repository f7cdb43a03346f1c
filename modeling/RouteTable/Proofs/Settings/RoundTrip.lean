/-
**Settings that are written are read back.**

Settings whose values have the types they are declared with can be written as JSON and read from
the file again. The ignored names are a set: they are written in order, and an empty set stands for
the default. What can go wrong is a size limit with too many digits, which is neither written nor
read.

* `Declared`, `Declared.settings_of_ofEntries`: the values of settings and the settings they make;
* `Declared.toDatum_settings`: the settings as data are again such values;
* `Settings.ofFile_line`: a file with the JSON text of a datum;
* `Settings.ofFile_written`: the round trip.
-/

import RouteTable.Proofs.Files.Writing
import RouteTable.Proofs.Json.Printable
import RouteTable.Settings

namespace RouteTable

/-! ## Names in order -/

theorem OutputFormat.word_of_ofWord? {word : String} {format : OutputFormat}
    (known : OutputFormat.ofWord? word = some format) : format.word = word := by
  unfold ofWord? at known
  simpa using List.find?_some known

/-- Names in the order of their characters. -/
def sortedNames (names : List String) : List String :=
  names.mergeSort fun first second => decide (first ≤ second)

theorem sortedNames_perm (names : List String) : (sortedNames names).Perm names :=
  List.mergeSort_perm names _

theorem sortedNames_sorted (names : List String) :
    sortedNames (sortedNames names) = sortedNames names := by
  refine List.mergeSort_of_pairwise (List.pairwise_mergeSort ?_ ?_ names)
  · intro first second third before after
    exact decide_eq_true
      (String.le_trans (of_decide_eq_true before) (of_decide_eq_true after))
  · intro first second
    simpa using String.le_total first second

/-- Texts are sorted as names. -/
theorem sortedScalars_texts (names : List String) :
    sortedScalars (names.map Scalar.text) = some ((sortedNames names).map Scalar.text) := by
  have order : (sortedNames names).map Scalar.text =
      (names.map Scalar.text).mergeSort fun left right => (left.precedes? right).getD true :=
    List.map_mergeSort fun first _ second _ => rfl
  rw [order]
  rcases names with _ | ⟨first, _ | ⟨second, rest⟩⟩
  · simp [sortedScalars]
  · simp [sortedScalars]
  · have comparable : ∀ value ∈ (second :: rest).map Scalar.text,
        ((Scalar.text first).precedes? value).isSome := by
      intro value inside
      obtain ⟨name, -, rfl⟩ := List.mem_map.mp inside
      rfl
    rw [List.map_cons, List.map_cons, sortedScalars]
    · exact if_pos (List.all_eq_true.mpr comparable)
    · exact nofun

namespace IgnoredNames

theorem any_same_text (names : List String) (name : String) :
    (names.map Scalar.text).any (Scalar.text name).same ↔ name ∈ names := by
  simp [Scalar.same, Scalar.toInt?]

/-- Names without repetition are kept as they are, after names that were read before. -/
theorem distinctScalars_texts (names read : List String) (distinct : read.Nodup) :
    ∃ found : List String,
      distinctScalars (read.map Scalar.text) (names.map Datum.text) =
        some (found.map Scalar.text) ∧
      found.Nodup ∧ ((read ++ names).Nodup → found = read ++ names) := by
  induction names generalizing read with
  | nil => exact ⟨read, rfl, distinct, fun _ => (List.append_nil read).symm⟩
  | cons name rest ih =>
    rw [List.map_cons, distinctScalars]
    by_cases known : name ∈ read
    · rw [if_pos ((any_same_text read name).mpr known)]
      obtain ⟨found, kept, once, -⟩ := ih read distinct
      refine ⟨found, kept, once, fun all => ?_⟩
      exact absurd rfl ((List.nodup_append.mp all).2.2 name known name List.mem_cons_self)
    · rw [if_neg fun same => known ((any_same_text read name).mp same)]
      have longer : (read ++ [name]).Nodup :=
        List.nodup_append.mpr ⟨distinct, by simp, fun other inside last same =>
          fun equal => known (List.mem_singleton.mp same ▸ equal ▸ inside)⟩
      obtain ⟨found, kept, once, same⟩ := ih (read ++ [name]) longer
      rw [List.map_append] at kept
      refine ⟨found, kept, once, fun all => ?_⟩
      rw [same (by rwa [List.append_assoc, List.singleton_append]), List.append_assoc,
        List.singleton_append]

theorem ofDatum_list {first : Datum} {rest : List Datum} {found : List Scalar}
    (distinct : distinctScalars [] (first :: rest) = some found) :
    IgnoredNames.ofDatum (.list (first :: rest)) = .ok (.among found) := by
  have truthy : (Datum.list (first :: rest)).isTruthy = true := rfl
  rw [IgnoredNames.ofDatum, truthy, Bool.not_true, if_neg Bool.false_ne_true, distinct]

/-- **The names of a set of texts**; the empty set stands for the default. -/
theorem ofDatum_texts (names : List String) :
    ∃ found : List String,
      IgnoredNames.ofDatum (.texts names) = .ok (.among (found.map Scalar.text)) ∧
      found.Nodup ∧ found ≠ [] ∧ (names.Nodup → names ≠ [] → found = names) := by
  cases names with
  | nil => exact ⟨defaults, rfl, by decide, nofun, fun _ none => absurd rfl none⟩
  | cons first rest =>
    obtain ⟨found, read, once, same⟩ := distinctScalars_texts (first :: rest) [] List.nodup_nil
    have listed : .text first ∈ found.map Scalar.text :=
      (distinctScalars_mem read first).mpr (.inr List.mem_cons_self)
    have nonempty : found ≠ [] := fun none => by simp [none] at listed
    refine ⟨found, ?_, once, nonempty, fun distinct _ => same distinct⟩
    exact ofDatum_list read

/-- Two sets of ignored names are equal. -/
def Same : IgnoredNames → IgnoredNames → Prop
  | .among first, .among second => ∀ name, name ∈ first ↔ name ∈ second
  | first, second => first = second

end IgnoredNames

/-! ## Declared values -/

/-- Values that are read back one by one are read back together. -/
theorem mapM_map_ok {α β ε : Type} {write : α → β} {read : β → Except ε α} {list : List α}
    (back : ∀ value ∈ list, read (write value) = .ok value) :
    (list.map write).mapM read = .ok list := by
  induction list with
  | nil => rfl
  | cons value rest ih =>
    rw [List.map_cons, List.mapM_cons, back value List.mem_cons_self,
      ih fun later inside => back later (List.mem_cons_of_mem _ inside)]
    rfl

/-- The values of settings, each of the type that it is declared with. The ignored names are the
members of a set, in any order. -/
structure Declared where
  globs : List String := Settings.defaultGlobs
  ignored : List String := []
  sizeLimit : Int := 10
  format : String := "table"
  verbose : Bool := false
  logLevel : String := "INFO"
  logFile : Option String := none

namespace Declared

/-- The values by name. -/
def entries (declared : Declared) : Assoc String Datum :=
  [ ("route_globs", .texts declared.globs), ("ignore_dirs", .texts declared.ignored),
    ("max_file_size_mb", .integer declared.sizeLimit), ("output_format", .text declared.format),
    ("verbose", .boolean declared.verbose), ("log_level", .text declared.logLevel),
    ("log_file", .optionalText declared.logFile) ]

/-- The settings of the values with a format and ignored names. -/
def settings (declared : Declared) (format : OutputFormat) (ignored : List String) : Settings where
  globs := .texts declared.globs
  ignored := .among (ignored.map Scalar.text)
  sizeLimit := .integer declared.sizeLimit
  format
  verbose := .boolean declared.verbose
  logLevel := .text declared.logLevel
  logFile := .optionalText declared.logFile

variable {declared : Declared} {format : OutputFormat} {ignored : List String}

/-- The settings of the values, if their ignored names and their format can be read. -/
theorem ofEntries_entries (declared : Declared) : Settings.ofEntries declared.entries =
    match IgnoredNames.ofDatum (.texts declared.ignored), OutputFormat.ofWord? declared.format with
    | .error fault, _ => .error fault
    | .ok _, none => .error (.unknownFormat declared.format)
    | .ok ignored, some format =>
      .ok { declared.settings format [] with ignored } := by
  have ignored : declared.entries.get? "ignore_dirs" = some (.texts declared.ignored) := rfl
  have word : declared.entries.get? "output_format" = some (.text declared.format) := rfl
  unfold Settings.ofEntries
  dsimp only
  rw [ignored, word, Option.getD_some, Option.getD_some]
  cases IgnoredNames.ofDatum (.texts declared.ignored) with
  | error fault => rfl
  | ok names =>
    cases known : OutputFormat.ofWord? declared.format with
    | none =>
      simp only [bind, Except.bind, known]
      rfl
    | some format =>
      simp only [bind, Except.bind, known]
      rfl

/-- **Values that are accepted** make settings with a known format and with some ignored names, of
which none is given twice. -/
theorem settings_of_ofEntries {settings : Settings}
    (made : Settings.ofEntries declared.entries = .ok settings) :
    ∃ format ignored, OutputFormat.ofWord? declared.format = some format ∧ ignored.Nodup ∧
      ignored ≠ [] ∧ settings = declared.settings format ignored := by
  obtain ⟨ignored, names, once, given, -⟩ := IgnoredNames.ofDatum_texts declared.ignored
  rw [ofEntries_entries, names] at made
  cases known : OutputFormat.ofWord? declared.format with
  | none =>
    rw [known] at made
    cases made
  | some format =>
    rw [known] at made
    cases made
    exact ⟨format, ignored, rfl, once, given, rfl⟩

theorem toDatum_settings (known : OutputFormat.ofWord? declared.format = some format) :
    (declared.settings format ignored).toDatum =
      .ok (.object { declared with ignored := sortedNames ignored }.entries) := by
  have globs : Settings.itemsOf? (.texts declared.globs) = some (declared.globs.map Datum.text) :=
    rfl
  have names : Settings.sortedIgnored? (.among (ignored.map Scalar.text)) =
      some ((sortedNames ignored).map Scalar.text) := sortedScalars_texts ignored
  have listed : ((sortedNames ignored).map Scalar.text).map Datum.scalar =
      (sortedNames ignored).map Datum.text := List.map_map
  unfold Settings.toDatum
  simp only [settings, globs, names, OutputFormat.word_of_ofWord? known]
  simp only [pure, bind, Except.pure, Except.bind, listed]
  rfl

theorem ofDatum_object {entries : Assoc String Datum}
    (known : ∀ entry ∈ entries, entry.1 ∈ Settings.names) :
    Settings.ofDatum (.object entries) = Settings.ofEntries entries := by
  rw [Datum.object, Settings.ofDatum, mapM_map_ok]
  · rfl
  · intro entry inside
    have named : Settings.nameOf? (.text entry.1) = some entry.1 :=
      if_pos (by simpa using known entry inside)
    rw [named]

theorem ofDatum_entries (declared : Declared) :
    Settings.ofDatum (.object declared.entries) = Settings.ofEntries declared.entries := by
  refine ofDatum_object fun entry inside => ?_
  have keys : declared.entries.map Prod.fst = Settings.names := rfl
  rw [← keys]
  exact List.mem_map_of_mem inside

theorem entries_exact (declared : Declared) : (Datum.object declared.entries).IsExact :=
  Datum.object_exact (show Settings.names.Nodup by decide)
    ⟨Datum.texts_exact _, Datum.texts_exact _, trivial, trivial, trivial, trivial,
      Datum.optionalText_exact _, trivial⟩

theorem entries_excess (declared : Declared) : (Datum.object declared.entries).excess? =
    (Scalar.integer declared.sizeLimit).excess? := by
  have file : (Datum.optionalText declared.logFile).excess? = none := by
    cases declared.logFile <;> rfl
  show Option.or (Datum.texts declared.globs).excess? (Option.or
    (Datum.texts declared.ignored).excess? (Option.or (Scalar.integer declared.sizeLimit).excess?
      (Option.or none (Option.or none (Option.or none
        (Option.or (Datum.optionalText declared.logFile).excess? none)))))) = _
  rw [Datum.texts_excess, Datum.texts_excess, file]
  simp

end Declared

/-! ## The round trip -/

namespace Settings

/-- Equal settings: the ignored names are compared as sets. -/
structure Same (first second : Settings) : Prop where
  globs : first.globs = second.globs
  ignored : first.ignored.Same second.ignored
  sizeLimit : first.sizeLimit = second.sizeLimit
  format : first.format = second.format
  verbose : first.verbose = second.verbose
  logLevel : first.logLevel = second.logLevel
  logFile : first.logFile = second.logFile

variable {tree : FileTree} {name : String} {place : List String}

theorem isYamlName_eq_false
    (noYaml : ∀ ending ∈ [".yaml", ".yml"], ¬ ending.toList <:+ name.toList) :
    isYamlName name = false := by
  rw [isYamlName, List.any_eq_false]
  intro ending listed found
  exact noYaml ending listed
    (List.reverse_prefix.mp (List.isPrefixOf_iff_prefix.mp found))

/-- **The settings of a file with the JSON text of a datum** are those of the datum, unless it holds
a number with too many digits. -/
theorem ofFile_line {datum : Datum} (exact : datum.IsExact)
    (writable : tree.writable name = .ok place)
    (noYaml : ∀ ending ∈ [".yaml", ".yml"], ¬ ending.toList <:+ name.toList) :
    ofFile (tree.put place (.file (Json.line datum).toUTF8)) name =
      match datum.excess? with
      | none => ofDatum datum
      | some digits => .error (.badNumeral (.tooLong digits)) := by
  have clean : '\r' ∉ (Json.line datum).toList := fun inside =>
    absurd (Json.line_printable exact _ inside) (by decide)
  unfold ofFile
  rw [FileTree.textOf_put writable clean]
  show ofText name (Json.line datum) = _
  rw [ofText, isYamlName_eq_false noYaml, if_neg Bool.false_ne_true, Json.read_line exact]
  cases datum.excess? <;> rfl

/-- **Settings that are written are read back**: their JSON text can be written, and a file with it
gives equal settings, which are written in the same way. -/
theorem ofFile_written {declared : Declared} {settings : Settings}
    (made : ofEntries declared.entries = .ok settings)
    (size : declared.sizeLimit.natAbs < Nat.pow 10 Numeral.maxDigits)
    (writable : tree.writable name = .ok place)
    (noYaml : ∀ ending ∈ [".yaml", ".yml"], ¬ ending.toList <:+ name.toList) :
    ∃ datum text again, settings.toDatum = .ok datum ∧ Json.write datum = .ok text ∧
      ofFile (tree.put place (.file text.toUTF8)) name = .ok again ∧
      again.Same settings ∧ again.toDatum = .ok datum := by
  obtain ⟨format, ignored, known, once, nonempty, rfl⟩ := declared.settings_of_ofEntries made
  let sorted := sortedNames ignored
  let written : Declared := { declared with ignored := sorted }
  have perm : sorted.Perm ignored := sortedNames_perm ignored
  have names : IgnoredNames.ofDatum (.texts written.ignored) =
      .ok (.among (sorted.map Scalar.text)) := by
    obtain ⟨found, read, -, -, same⟩ := IgnoredNames.ofDatum_texts sorted
    have listed : sorted ≠ [] := fun none => nonempty (List.nil_perm.mp (none ▸ perm))
    rwa [same (perm.nodup_iff.mpr once) listed] at read
  have word : OutputFormat.ofWord? written.format = some format := known
  have again : ofEntries written.entries = .ok (written.settings format sorted) := by
    rw [written.ofEntries_entries, names, word]
    rfl
  have short : (Datum.object written.entries).excess? = none :=
    written.entries_excess.trans (Scalar.excess?_of_lt size)
  refine ⟨_, _, written.settings format sorted, Declared.toDatum_settings known,
    congrArg (Json.checked · _) short, ?_, ?_, ?_⟩
  · rw [ofFile_line written.entries_exact writable noYaml, short]
    exact written.ofDatum_entries.trans again
  · exact ⟨rfl, fun name => (perm.map Scalar.text).mem_iff, rfl, rfl, rfl, rfl, rfl⟩
  · rw [Declared.toDatum_settings word, sortedNames_sorted]

/-- Settings with a set of ignored names, with texts that need escapes and with a log file. -/
theorem ofFile_written_escapes :
    let declared : Declared :=
      { globs := [], ignored := ["tmp", "a\"b\n"], sizeLimit := -7, format := "json",
        verbose := true, logLevel := "😀\\", logFile := some "log/run.json" }
    let tree : FileTree := {}
    ∃ settings, ofEntries declared.entries = .ok settings ∧
      declared.sizeLimit.natAbs < Nat.pow 10 Numeral.maxDigits ∧
      tree.writable "c.json" = .ok ["c.json"] ∧
      (∀ ending ∈ [".yaml", ".yml"], ¬ ending.toList <:+ "c.json".toList) ∧
      ∃ datum text again, settings.toDatum = .ok datum ∧ Json.write datum = .ok text ∧
        ofFile (tree.put ["c.json"] (.file text.toUTF8)) "c.json" = .ok again ∧
        again.Same settings ∧ again.toDatum = .ok datum := by
  intro declared tree
  have made : ofEntries declared.entries = .ok (declared.settings .json ["tmp", "a\"b\n"]) := rfl
  have size : declared.sizeLimit.natAbs < Nat.pow 10 Numeral.maxDigits :=
    (Json.length_decimal_le_iff (by decide)).mp (by decide +kernel)
  have writable : tree.writable "c.json" = .ok ["c.json"] := rfl
  have noYaml : ∀ ending ∈ [".yaml", ".yml"], ¬ ending.toList <:+ "c.json".toList := by decide
  exact ⟨_, made, size, writable, noYaml, ofFile_written made size writable noYaml⟩

/-- **A size limit of more digits than a numeral may have** is not written, and a text with it would
not be read. -/
theorem ofFile_written_long :
    let declared : Declared := { sizeLimit := (Nat.pow 10 Numeral.maxDigits : Nat) }
    let tree : FileTree := {}
    ∃ settings datum, ofEntries declared.entries = .ok settings ∧ settings.toDatum = .ok datum ∧
      Json.write datum = .error (.tooLong 4301) ∧ tree.writable "c.json" = .ok ["c.json"] ∧
      ofFile (tree.put ["c.json"] (.file (Json.line datum).toUTF8)) "c.json" =
        .error (.badNumeral (.tooLong 4301)) := by
  intro declared tree
  have made : ofEntries declared.entries = .ok (declared.settings .table IgnoredNames.defaults) :=
    rfl
  have known : OutputFormat.ofWord? declared.format = some .table := rfl
  have writable : tree.writable "c.json" = .ok ["c.json"] := rfl
  have noYaml : ∀ ending ∈ [".yaml", ".yml"], ¬ ending.toList <:+ "c.json".toList := by decide
  let written : Declared := { declared with ignored := sortedNames IgnoredNames.defaults }
  have excess : (Datum.object written.entries).excess? = some 4301 :=
    written.entries_excess.trans (Scalar.excess?_pow (Nat.le_refl Numeral.maxDigits))
  refine ⟨_, _, made, Declared.toDatum_settings known, congrArg (Json.checked · _) excess, writable,
    ?_⟩
  rw [ofFile_line written.entries_exact writable noYaml, excess]

end Settings

end RouteTable
