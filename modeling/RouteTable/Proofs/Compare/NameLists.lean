/-
**Lists of names, however they are spelled.**

The options `:only`, `:except`, `:member` and `:collection` list names. One name, an array, a hash
with the names as keys, and any other value all say which names they list, or that they list none;
only an option that is absent says nothing. Nothing else is read of such an option, neither where it
is written nor where a `with_options` block hands it down. So each of them may be spelled as the
array of its names, everywhere in a file at once.

* `Value.namesOf_spelledOut`: the array lists the same names;
* `Call.SameLists`: calls that differ in how lists of names are spelled;
* `process_spelledOut`: spelled out at any depth, a file declares the same.
-/

import RouteTable.Proofs.Compare.Options
import RouteTable.Proofs.Walk.Reading

namespace RouteTable

/-! ## Values -/

/-- The options that list names. -/
def Call.listOptions : List String := ["only", "except", "member", "collection"]

namespace Value

/-- A list of names as the array of its symbols; what is absent stays absent. -/
def spelledOut (value : Value) : Value :=
  match value.namesOf with
  | none => value
  | some names => .array (names.map .symbol)

/-- No empty text is among the names. -/
theorem nonempty_of_namesOf {value : Value} {names : List String}
    (listed : value.namesOf = some names) : nonempty names = names := by
  have again (texts : List String) : nonempty (nonempty texts) = nonempty texts := by
    rw [nonempty, nonempty, List.filter_filter]
    simp
  unfold namesOf at listed
  split at listed
  · cases listed
  all_goals
    obtain rfl := Option.some.inj listed
    exact again _

/-- **A list that is spelled out lists the same names.** -/
theorem namesOf_spelledOut (value : Value) : value.spelledOut.namesOf = value.namesOf := by
  unfold spelledOut
  cases listed : value.namesOf with
  | none => exact listed
  | some names =>
    have literals : (names.map Value.symbol).filterMap literal? = names := by
      rw [List.filterMap_map]
      exact List.filterMap_some
    show some (nonempty ((names.map Value.symbol).filterMap literal?)) = some names
    rw [literals, nonempty_of_namesOf listed]

/-- One name, names as keys, and a list of which one item is no name. -/
example :
    spelledOut (.text "index") = .array [.symbol "index"] ∧
      spelledOut (.hash [(.symbol "search", .symbol "get")]) = .array [.symbol "search"] ∧
      spelledOut (.array [.symbol "show", .interpolated "a", .text ""]) =
        .array [.symbol "show"] ∧
      spelledOut (.interpolated "a") = .array [] ∧ spelledOut .nothing = .nothing :=
  ⟨rfl, rfl, rfl, rfl, rfl⟩

/-- Values of an option that list the same names, if names are listed by it; otherwise they are
equal. -/
structure SameList (name : String) (value twin : Value) : Prop where
  names : twin.namesOf = value.namesOf
  plain : name ∉ Call.listOptions → twin = value

theorem SameList.refl (name : String) (value : Value) : SameList name value value :=
  ⟨rfl, fun _ => rfl⟩

end Value

namespace Assoc.Alike

variable {options others : Assoc String Value} (alike : Assoc.Alike Value.SameList options others)
include alike

/-- The names that an option lists. -/
theorem sameNames (name : String) :
    (RouteTable.optionValue others name).namesOf = (RouteTable.optionValue options name).namesOf :=
  (alike.optionValue (.refl name _)).names

/-- An option that lists no names. -/
theorem sameValue (name : String) (plain : name ∉ Call.listOptions) :
    RouteTable.optionValue others name = RouteTable.optionValue options name :=
  (alike.optionValue (.refl name _)).plain plain

end Assoc.Alike

/-! ## Calls -/

/-- Entries of options with the same key; a value may list the same names if its key is the symbol
of an option that lists names. -/
structure EntrySameList (entry twin : Atom × Value) : Prop where
  key : twin.1 = entry.1
  named : ∀ name ∈ entry.1.symbolName?, Value.SameList name entry.2 twin.2
  plain : entry.1.symbolName? = none → twin.2 = entry.2

/-- Calls that differ in nothing but their blocks and the spelling of lists of names. -/
structure Call.SameLists (call twin : Call) : Prop where
  name : twin.name = call.name
  line : twin.line = call.line
  receiver : twin.receiver = call.receiver
  arguments : twin.arguments = call.arguments
  options : Option.Rel (List.Forall₂ EntrySameList) call.options twin.options

namespace Call.SameLists

variable {call twin : Call} (same : SameLists call twin)
include same

theorem firstArgument? : twin.firstArgument? = call.firstArgument? := by
  rw [Call.firstArgument?, Call.firstArgument?, same.arguments]

theorem firstLiteral? : twin.firstLiteral? = call.firstLiteral? := by
  rw [Call.firstLiteral?, Call.firstLiteral?, same.firstArgument?]

theorem keywordOptions :
    ReadAlike (Assoc.Alike Value.SameList) call.keywordOptions twin.keywordOptions :=
  keywordOptions_alike (fun _ _ entries => congrArg Atom.symbolName? entries.key)
    (fun _ _ entries => entries.named) same.options

/-- A path and its target are never under a symbol. -/
theorem mapping? : twin.mapping? = call.mapping? := by
  rw [Call.mapping?, Call.mapping?]
  have options := same.options
  generalize call.options = options at *
  generalize twin.options = others at *
  cases options with
  | none => rfl
  | some entries =>
    refine congrArg Except.ok ?_
    induction entries with
    | nil => rfl
    | @cons entry other rest others first _ ih =>
      obtain ⟨key, value⟩ := entry
      obtain ⟨other, twin⟩ := other
      obtain ⟨keys, -, plain⟩ := first
      dsimp only at keys
      subst keys
      rw [List.find?_cons, List.find?_cons, ih]
      cases other with
      | text | interpolated =>
        obtain rfl := plain rfl
        rfl
      | symbol | pattern | identifier | expression | nothing => rfl

theorem form (block : twin.hasBlock = call.hasBlock) {around other : Surroundings}
    (grouping : other.grouping = around.grouping)
    (parameters : other.parameters = around.parameters) : twin.form other = call.form around := by
  have named : twin.isNamedRoute other.parameters = call.isNamedRoute around.parameters := by
    rw [isNamedRoute_eq, isNamedRoute_eq, same.receiver, same.firstArgument?, parameters]
  rw [form_eq, form_eq, grouping, wordForm?_congr same.name block, receiverForm, receiverForm,
    named]

end Call.SameLists

/-! ## Readings -/

section Readings

variable {call twin : Call} (same : Call.SameLists call twin)
include same

/-- The action that a verb adds. -/
theorem Call.SameLists.extensionAction? :
    RouteTable.extensionAction? twin = RouteTable.extensionAction? call := by
  rw [extensionAction?_eq, extensionAction?_eq, same.firstLiteral?, same.mapping?]
  refine same.keywordOptions.bind_eq fun own other written => ?_
  rw [written.contains, written.contains, written.sameValue "action" (by decide)]

/-- The name that a verb adds to the innermost resource. -/
theorem Call.SameLists.addedName? {around other : Surroundings}
    (grouping : other.grouping = around.grouping) :
    twin.addedName? other = call.addedName? around := by
  rw [Call.addedName?, Call.addedName?, grouping, same.extensionAction?]
  have own := same.keywordOptions
  generalize call.keywordOptions = own at *
  generalize twin.keywordOptions = other at *
  cases own with
  | fault => rfl
  | read written =>
    have on := written.sameValue "on" (by decide)
    cases around.grouping with
    | none => rfl
    | some enclosing =>
      cases RouteTable.extensionAction? call with
      | error fault => rfl
      | ok action =>
        cases action with
        | none => rfl
        | some action =>
          dsimp only
          rw [on]

/-- The frame that the block of a call gets: options that are handed down list the same names. -/
theorem Call.SameLists.frame? :
    ReadAlike (Option.Rel (Frame.Alike Value.SameList)) call.frame? twin.frame? := by
  have still (frame : Option Frame) : Option.Rel (Frame.Alike Value.SameList) frame frame := by
    cases frame with
    | none => exact .none
    | some frame => exact .some (.refl Value.SameList.refl frame)
  unfold Call.frame?
  rw [same.name, same.firstLiteral?, same.firstArgument?]
  split
  · refine same.keywordOptions.bind fun own other written => .read ?_
    rw [written.sameValue "module" (by decide), written.sameValue "controller" (by decide)]
    exact still _
  · split
    · exact .read (still _)
    · split
      · exact same.keywordOptions.bind fun own other written =>
          .read (.some ⟨rfl, written, written⟩)
      · split
        · exact .read (still _)
        · exact .read .none

variable {scopes others : Scopes} (around : Scopes.Alike Value.SameList scopes others)
include around

/-- What is read of a verb or a named route. -/
theorem Scopes.Alike.directRoute_sameLists (legacy : Bool) :
    RouteTable.directRoute others legacy twin = RouteTable.directRoute scopes legacy call := by
  have reading : DirectReading.ofCall others.defaults twin =
      DirectReading.ofCall scopes.defaults call := by
    unfold DirectReading.ofCall
    rw [same.mapping?, same.firstLiteral?]
    refine same.keywordOptions.bind_eq fun own other written => ?_
    have taken := around.defaults.merge written
    simp only [written.contains, taken.sameValue "to" (by decide),
      taken.sameValue "controller" (by decide), taken.sameValue "action" (by decide),
      taken.sameValue "module" (by decide)]
  rw [directRoute_eq, directRoute_eq, reading, around.namespaces]

/-- What is read of a root. -/
theorem Scopes.Alike.rootRoute_sameLists :
    RouteTable.rootRoute others twin = RouteTable.rootRoute scopes call := by
  have reading : RootReading.ofCall others.defaults twin =
      RootReading.ofCall scopes.defaults call := by
    unfold RootReading.ofCall RootReading.targetOf
    rw [same.firstArgument?]
    refine same.keywordOptions.bind_eq fun own other written => ?_
    have taken := around.defaults.merge written
    simp only [taken.sameValue "to" (by decide), taken.sameValue "controller" (by decide),
      taken.sameValue "action" (by decide), taken.sameValue "module" (by decide)]
  rw [rootRoute_eq, rootRoute_eq, reading, around.namespaces]

/-- What is read of a resource declaration: the names in its lists, and nothing else of them. -/
theorem Scopes.Alike.declaration_sameLists :
    ResourceDeclaration.ofCall others twin = ResourceDeclaration.ofCall scopes call := by
  unfold ResourceDeclaration.ofCall
  rw [Call.literalArguments, same.arguments, ← Call.literalArguments]
  refine same.keywordOptions.bind_eq fun own other written => ?_
  have taken := around.resourceDefaults.merge written
  have controller := taken.sameValue "controller" (by decide)
  have module := taken.sameValue "module" (by decide)
  dsimp only
  rw [taken.sameNames "only", taken.sameNames "except", taken.sameNames "member",
    taken.sameNames "collection"]
  simp only [around.controllersOf _ (congrArg Value.literal? controller)
    (congrArg Value.literal? module)]

end Readings

/-! ## Trees -/

/-- Trees that differ in nothing but the spelling of lists of names. -/
def Comparison.nameLists : Comparison where
  calls _ := Call.SameLists

/-- The spelling of lists of names changes no plan. -/
def Simulation.nameLists : Simulation .nameLists where
  scopes := Scopes.Alike Value.SameList
  frames := Frame.Alike Value.SameList
  move := id
  enter outer frame := outer.cons frame
  line same := same.line
  plan around same block := by
    have parameters := around.parameters.trans (List.map_id _)
    rw [Plan.ofCall_form, Plan.ofCall_form, same.form block around.grouping parameters]
    refine .of_readings (.refl Value.SameList.refl) ?_ Call.form_root
    exact {
      name := same.name
      frame := same.frame?
      added := same.addedName? around.grouping
      direct := around.scopes.directRoute_sameLists same
      root := fun _ => around.scopes.rootRoute_sameLists same
      declaration := around.scopes.declaration_sameLists same }

/-- An option with its list of names spelled out, if it lists names. -/
def spelledOutEntry (entry : Atom × Value) : Atom × Value :=
  if entry.1.symbolName?.any Call.listOptions.contains then (entry.1, entry.2.spelledOut) else entry

theorem EntrySameList.spelledOut (entry : Atom × Value) :
    EntrySameList entry (spelledOutEntry entry) := by
  unfold spelledOutEntry
  split
  · next lists =>
    refine ⟨rfl, fun name word => ⟨Value.namesOf_spelledOut entry.2, ?_⟩, fun absent => ?_⟩
    · intro plain
      rw [word] at lists
      exact absurd (List.contains_iff_mem.mp lists) plain
    · rw [absent] at lists
      cases lists
  · exact ⟨rfl, fun name _ => .refl name entry.2, fun _ => rfl⟩

mutual

/-- Statements with all lists of names spelled out, at any depth. -/
def Value.allSpelledOut : List Value → List Value
  | [] => []
  | .call call :: rest => .call call.spelledOut :: Value.allSpelledOut rest
  | .atom plain :: rest => .atom plain :: Value.allSpelledOut rest
  | .array items :: rest => .array items :: Value.allSpelledOut rest
  | .hash entries :: rest => .hash entries :: Value.allSpelledOut rest
termination_by structural statements => statements

/-- A call with its lists of names spelled out, and those of the calls in its block. -/
def Call.spelledOut : Call → Call
  | ⟨name, line, receiver, arguments, options, block⟩ =>
    ⟨name, line, receiver, arguments, options.map fun entries => entries.map spelledOutEntry,
      Block.spelledOut block⟩
termination_by structural call => call

/-- A block with the lists of names of its calls spelled out. -/
def Block.spelledOut : Option Block → Option Block
  | none => none
  | some ⟨parameters, none⟩ => some ⟨parameters, none⟩
  | some ⟨parameters, some body⟩ => some ⟨parameters, some (Value.allSpelledOut body)⟩
termination_by structural block => block

end

theorem Call.SameLists.spelledOut (call : Call) : SameLists call call.spelledOut := by
  obtain ⟨name, line, receiver, arguments, options, block⟩ := call
  refine ⟨rfl, rfl, rfl, rfl, ?_⟩
  show Option.Rel _ options (options.map _)
  cases options with
  | none => exact .none
  | some entries =>
    refine .some ?_
    induction entries with
    | nil => exact .nil
    | cons entry rest ih => exact .cons (.spelledOut entry) ih

namespace Comparison

mutual

/-- Statements that are spelled out differ from what they were in the spelling alone. -/
theorem Statements.spelledOut : ∀ (statements : List Value) (inResource : Bool),
    nameLists.Statements inResource statements (Value.allSpelledOut statements)
  | [], _ => .nil
  | .call call :: rest, _ =>
    .call (.spelledOut call) (Blocks.spelledOut call _) (Statements.spelledOut rest _)
  | .atom _ :: rest, _ => .other rfl rfl (Statements.spelledOut rest _)
  | .array _ :: rest, _ => .other rfl rfl (Statements.spelledOut rest _)
  | .hash _ :: rest, _ => .other rfl rfl (Statements.spelledOut rest _)
termination_by structural statements => statements

theorem Blocks.spelledOut : ∀ (call : Call) (inResource : Bool),
    nameLists.Blocks inResource call.block call.spelledOut.block
  | ⟨_, _, _, _, _, none⟩, _ => .absent
  | ⟨_, _, _, _, _, some block⟩, _ => Blocks.some_spelledOut block _
termination_by structural call => call

theorem Blocks.some_spelledOut : ∀ (block : Block) (inResource : Bool),
    nameLists.Blocks inResource (some block) (Block.spelledOut (some block))
  | ⟨none, none⟩, _ => .noParameters
  | ⟨none, some _⟩, _ => .noParameters
  | ⟨some parameters, none⟩, inResource => by
    have kept : nameLists.Blocks inResource (some ⟨some parameters, none⟩)
        (some ⟨some (parameters.map id), none⟩) := .noBody
    rwa [List.map_id] at kept
  | ⟨some parameters, some body⟩, inResource => by
    have kept : nameLists.Blocks inResource (some ⟨some parameters, some body⟩)
        (some ⟨some (parameters.map id), some (Value.allSpelledOut body)⟩) :=
      .given (Statements.spelledOut body inResource)
    rwa [List.map_id] at kept
termination_by structural block => block

end

end Comparison

namespace Recognizer

/-- **The spelling of lists of names does not matter.** Every list of names of every call, at any
depth and in options that are handed down, may be spelled as the array of its names, all at once: a
file declares the same routes in the same order, on the same lines; and from every state, walking
through the statements lists the same routes and gives the innermost open resource the same
names. -/
theorem process_spelledOut (statements : List Value) (file : Option String) (state : Recognizer) :
    (process file (Value.allSpelledOut statements) state).1 = (process file statements state).1 ∧
      (walk (Value.allSpelledOut statements) state).registry = (walk statements state).registry ∧
      (walk (Value.allSpelledOut statements) state).resources =
        (walk statements state).resources := by
  have around (scopes : Scopes) : Simulation.nameLists.scopes scopes scopes :=
    .refl Value.SameList.refl scopes
  have same := Comparison.Statements.spelledOut statements false
  have walked := Simulation.walk_same rfl same (around state.scopes) nofun
  have parameters : state.parameters.map Comparison.nameLists.parameter = state.parameters :=
    List.map_id _
  rw [parameters] at walked
  exact ⟨Simulation.process_same rfl same (around []) file state, walked⟩

end Recognizer

end RouteTable
