/-
**Settings of a run.**

Settings come from a JSON or YAML file, from environment variables or from the command line. Most
values are taken as they are and only fail where they are used: the size limit when a file is
compared with it, the ignored names when a path is compared with them.

* `distinctScalars_mem`: exactly the names of a list are ignored, each once;
* `ofEntries_nil`: without entries every setting has its default.
-/

import RouteTable.Datum.Display
import RouteTable.FileTree
import RouteTable.Json.Reader
import RouteTable.Number.Numeral
import RouteTable.Yaml.Reader

namespace RouteTable

/-- How a run is shown. -/
inductive OutputFormat
  | table
  | json
deriving DecidableEq, Repr

/-- The word for an output format. -/
def OutputFormat.word : OutputFormat → String
  | .table => "table"
  | .json => "json"

/-- The output format of a word. -/
def OutputFormat.ofWord? (word : String) : Option OutputFormat :=
  [OutputFormat.table, .json].find? fun format => format.word = word

/-- The names of the files and directories that a run leaves out: the names of a collection, or the
names that stand somewhere in a text. -/
inductive IgnoredNames
  | among (names : List Scalar)
  | within (text : String)
  | unusable
deriving DecidableEq, Repr

/-- The settings of a run. -/
structure Settings where
  globs : Datum
  ignored : IgnoredNames
  sizeLimit : Datum
  format : OutputFormat
  verbose : Datum
  logLevel : Datum
  logFile : Datum
deriving Repr

/-- Why there are no settings, or why a setting cannot be used. -/
inductive SettingsFault
  | unknownFormat (shown : String)
  | unknownName
  | noMap
  | unusableIgnored
  | unusableGlobs
  | badNumeral (fault : NumeralFault)
  | badJson
  | badYaml (fault : Yaml.Fault)
  | unreadable (fault : ReadFault)
deriving DecidableEq, Repr

/-- The message of a fault, where it has one. -/
def SettingsFault.message? : SettingsFault → Option String
  | .unknownFormat shown =>
    some s!"Unknown output format '{shown}', expected one of ('table', 'json')"
  | .badNumeral fault => some fault.message
  | .badYaml (.badNumeral fault) => some fault.message
  | .badYaml (.badReal text) => some s!"could not convert string to float: {Text.quoted text}"
  | .unreadable (.unopened path .nullCharacter) => some (OpenFault.nullCharacter.message path)
  | _ => none

/-! ## Ignored names -/

/-- The distinct scalars among a list of data. -/
def distinctScalars (read : List Scalar) : List Datum → Option (List Scalar)
  | [] => some read
  | .scalar value :: rest =>
    distinctScalars (if read.any value.same then read else read ++ [value]) rest
  | _ :: _ => none

namespace IgnoredNames

/-- The names that are left out unless others are given: version control, dependencies, build
output and editors. -/
def defaults : List String :=
  [ ".git", ".svn", ".hg", ".bzr", "node_modules", "vendor", ".bundle", "tmp", "log", "public",
    "coverage", ".cache", ".idea", ".vscode", ".DS_Store" ]

/-- The ignored names that a value stands for; an empty value stands for the default. -/
def ofDatum (value : Datum) : Except SettingsFault IgnoredNames :=
  if !value.isTruthy then .ok (.among (defaults.map Scalar.text))
  else match value with
    | .list items =>
      match distinctScalars [] items with
      | some names => .ok (.among names)
      | none => .error .unusableIgnored
    | .map entries => .ok (.among (entries.map Prod.fst))
    | .text content => .ok (.within content)
    | _ => .ok .unusable

/-- Whether a name is ignored, if that can be said. -/
def contains? (ignored : IgnoredNames) (name : String) : Option Bool :=
  match ignored with
  | .among names => some (names.contains (.text name))
  | .within text => some (Text.hasInside name.toList text.toList)
  | .unusable => none

theorem distinctScalars_mem {read : List Scalar} {names : List String} {found : List Scalar}
    (distinct : distinctScalars read (names.map Datum.text) = some found) (name : String) :
    .text name ∈ found ↔ .text name ∈ read ∨ name ∈ names := by
  induction names generalizing read with
  | nil => simp_all [distinctScalars]
  | cons head rest ih =>
    rw [List.map_cons, distinctScalars] at distinct
    rw [ih distinct]
    by_cases present : read.any (Scalar.text head).same = true
    · have member : Scalar.text head ∈ read := by
        obtain ⟨value, inside, same⟩ := List.any_eq_true.1 present
        cases value <;> simp_all [Scalar.same, Scalar.toInt?]
      rw [if_pos present]
      constructor
      · rintro (inside | inside)
        · exact .inl inside
        · exact .inr (List.mem_cons_of_mem _ inside)
      · rintro (inside | inside)
        · exact .inl inside
        · rcases List.mem_cons.1 inside with rfl | later
          · exact .inl member
          · exact .inr later
    · rw [if_neg present]
      simp only [List.mem_append, List.mem_cons, List.not_mem_nil, or_false, or_assoc,
        Scalar.text.injEq]

end IgnoredNames

/-! ## Sorting -/

/-- The place of a number among all numbers. -/
def Scalar.numericRank? : Scalar → Option (Int × Int)
  | .boolean value => some (0, (if value then 1 else 0) * Double.unitsOfOne)
  | .integer value => some (0, value * Double.unitsOfOne)
  | .real (.finite negative mantissa exponent) =>
    some (0, Double.inLeastUnits negative mantissa exponent)
  | .real (.infinite negative) => some (if negative then -1 else 1, 0)
  | .real .undefined => some (2, 0)
  | _ => none

/-- Whether a scalar comes before another one or is equal to it, if they can be compared. -/
def Scalar.precedes? : Scalar → Scalar → Option Bool
  | .text first, .text second => some (first ≤ second)
  | first, second =>
    match first.numericRank?, second.numericRank? with
    | some left, some right => some (left.1 < right.1 || (left.1 = right.1 && left.2 ≤ right.2))
    | _, _ => none

/-- Scalars in order, if each two of them can be compared. -/
def sortedScalars (values : List Scalar) : Option (List Scalar) :=
  match values with
  | [] | [_] => some values
  | first :: rest =>
    if rest.all fun value => (first.precedes? value).isSome then
      some (values.mergeSort fun left right => (left.precedes? right).getD true)
    else none

/-! ## Settings from data -/

namespace Settings

/-- The patterns of the routing files unless others are given. -/
def defaultGlobs : List String := ["config/routes.rb", "config/routes/**/*.rb"]

/-- The names of the settings. -/
def names : List String :=
  [ "route_globs", "ignore_dirs", "max_file_size_mb", "output_format", "verbose", "log_level",
    "log_file" ]

/-- The settings of a map with text keys; a missing entry has its default. -/
def ofEntries (entries : Assoc String Datum) : Except SettingsFault Settings := do
  let given (name : String) (default : Datum) : Datum := (entries.get? name).getD default
  let ignored ← IgnoredNames.ofDatum (given "ignore_dirs" (.list []))
  let format := given "output_format" (.text "table")
  let found := match format with
    | .text word => OutputFormat.ofWord? word
    | _ => none
  match found with
  | none => throw (.unknownFormat format.message)
  | some format =>
    return {
      globs := given "route_globs" (.texts defaultGlobs)
      ignored
      sizeLimit := given "max_file_size_mb" (.integer 10)
      format
      verbose := given "verbose" (.boolean false)
      logLevel := given "log_level" (.text "INFO")
      logFile := given "log_file" .null }

/-- A key of a map of settings. -/
def nameOf? : Scalar → Option String
  | .text name => if names.contains name then some name else none
  | _ => none

/-- The settings of a datum, which must be a map of known names. -/
def ofDatum : Datum → Except SettingsFault Settings
  | .map entries => do
    let named ← entries.mapM fun entry =>
      match nameOf? entry.1 with
      | some name => .ok (name, entry.2)
      | none => .error SettingsFault.unknownName
    ofEntries named
  | _ => .error .noMap

/-- The settings if nothing is given. -/
def default : Settings where
  globs := .texts defaultGlobs
  ignored := .among (IgnoredNames.defaults.map Scalar.text)
  sizeLimit := .integer 10
  format := .table
  verbose := .boolean false
  logLevel := .text "INFO"
  logFile := .null

theorem ofEntries_nil : ofEntries [] = .ok default := rfl

/-! ## Settings from files and variables -/

/-- Whether the name of a file asks for YAML. -/
def isYamlName (name : String) : Bool :=
  [".yaml", ".yml"].any fun ending => ending.toList.reverse.isPrefixOf name.toList.reverse

/-- The settings of the text of a file with a name. An empty YAML value stands for no settings. -/
def ofText (name text : String) : Except SettingsFault Settings :=
  if isYamlName name then
    match Yaml.read text with
    | .ok value => ofDatum (if value.isTruthy then value else .map [])
    | .error fault => .error (.badYaml fault)
  else
    match Json.read text with
    | .ok value => ofDatum value
    | .error .malformed => .error .badJson
    | .error (.tooLong digits) => .error (.badNumeral (.tooLong digits))

/-- The settings of a file. -/
def ofFile (tree : FileTree) (name : String) : Except SettingsFault Settings := do
  let text ← (FileTree.textOf name (tree.findText name)).mapError SettingsFault.unreadable
  ofText name text

/-- The variable for a name. -/
def variableOf (name : String) : String := "ROUTE_PREPARE_" ++ name

/-- The variables that hold settings. -/
def variableNames : List String :=
  ["ROUTE_GLOBS", "MAX_FILE_SIZE", "OUTPUT_FORMAT", "VERBOSE", "LOG_LEVEL", "LOG_FILE"].map
    variableOf

/-- The value of the variable for a name. -/
def valueIn? (environment : Assoc String String) (name : String) : Option String :=
  environment.get? (variableOf name)

/-- The patterns between the commas of a text. -/
def globsOf (text : String) : List String :=
  (((Text.pieces (· = ',') text.toList).map fun piece =>
    Text.trimmed (String.ofList piece)).filter (· ≠ ""))

/-- Whether a text says yes. -/
def isYes (text : String) : Bool := text.toList.map Char.toLower = "true".toList

/-- The settings in the environment. -/
def ofEnvironment (environment : Assoc String String) : Except SettingsFault Settings := do
  let read := valueIn? environment
  let limit ← match read "MAX_FILE_SIZE" with
    | none => pure 10
    | some text => (Numeral.read 10 text).mapError SettingsFault.badNumeral
  let globs := match (read "ROUTE_GLOBS").filter (· ≠ "") with
    | none => defaultGlobs
    | some text => globsOf text
  ofEntries
    [ ("route_globs", .texts globs), ("max_file_size_mb", .integer limit),
      ("output_format", .text ((read "OUTPUT_FORMAT").getD "table")),
      ("verbose", .boolean (isYes ((read "VERBOSE").getD "false"))),
      ("log_level", .text ((read "LOG_LEVEL").getD "INFO")),
      ("log_file", .optionalText (read "LOG_FILE")) ]

/-! ## Settings as data -/

/-- The items of a collection: the characters of a text and the keys of a map. -/
def itemsOf? : Datum → Option (List Datum)
  | .list items => some items
  | .map entries => some (entries.map fun entry => .scalar entry.1)
  | .text content => some (content.toList.map fun char => .text (String.ofList [char]))
  | _ => none

/-- The ignored names in order. -/
def sortedIgnored? : IgnoredNames → Option (List Scalar)
  | .among names => sortedScalars names
  | .within text =>
    sortedScalars (text.toList.map fun char => Scalar.text (String.ofList [char]))
  | .unusable => none

/-- The settings as a map. -/
def toDatum (settings : Settings) : Except SettingsFault Datum := do
  let globs ← match itemsOf? settings.globs with
    | some items => pure items
    | none => throw .unusableGlobs
  let ignored ← match sortedIgnored? settings.ignored with
    | some names => pure names
    | none => throw .unusableIgnored
  return .object
    [ ("route_globs", .list globs), ("ignore_dirs", .list (ignored.map Datum.scalar)),
      ("max_file_size_mb", settings.sizeLimit), ("output_format", .text settings.format.word),
      ("verbose", settings.verbose), ("log_level", settings.logLevel),
      ("log_file", settings.logFile) ]

end Settings

end RouteTable
