/-
**Opaque text and what is declared.**

Opaque text is not looked into: two files that differ in opaque text alone declare the same routes.
There is one exception. The target of a root is looked through for a mark between a controller and
an action even if it is a text with interpolation. So the law asks that a root names the same by
every value that stands where a root may take its target from: its own `:to` and first argument, and
a `:to` that `with_options` hands down.

* `Plan.ofForm_alike`: calls that differ in opaque text ask for the same;
* `rootRoute_interpolated`: an interpolated target of a root is read like any other text;
* `walk_redacted`: trees that differ in opaque text declare the same.
-/

import RouteTable.Proofs.Compare.Trees
import RouteTable.Proofs.Compare.Options
import RouteTable.Proofs.Compare.Redaction

namespace RouteTable

/-- Values of an option that differ in opaque text at most. Where a `:to` may be the target of a
root, a root names the same by both. -/
structure Value.AlikeFor (targets : Bool) (name : String) (value twin : Value) : Prop where
  alike : Value.Alike value twin
  target : targets → name = "to" → RootReading.namesIn twin = RootReading.namesIn value

theorem Value.AlikeFor.refl {targets : Bool} (name : String) (value : Value) :
    AlikeFor targets name value value :=
  ⟨.refl value, fun _ _ => rfl⟩

/-- Less is known where no target is read. -/
theorem Value.AlikeFor.plain {targets : Bool} {name : String} {value twin : Value}
    (alike : AlikeFor targets name value twin) : AlikeFor false name value twin :=
  ⟨alike.alike, nofun⟩

/-- The options that a call takes over differ in opaque text at most. -/
theorem Value.AlikeFor.taken {inherits writes : Bool}
    {defaults others own other : Assoc String Value}
    (outer : Assoc.Alike (AlikeFor inherits) defaults others)
    (inner : Assoc.Alike (AlikeFor writes) own other) (name : String) :
    Value.Alike (optionValue (defaults.merge own) name)
      (optionValue (others.merge other) name) := by
  have plain := (outer.mono fun _ _ _ => (·.plain)).merge (inner.mono fun _ _ _ => (·.plain))
  exact (plain.optionValue (.refl name _)).alike

/-- Entries of options that differ in opaque text at most, in their keys too. -/
structure EntryAlike (targets : Bool) (entry twin : Atom × Value) : Prop where
  key : twin.1.redacted = entry.1.redacted
  value : Value.Alike entry.2 twin.2
  target : targets → entry.1 = .symbol "to" →
    RootReading.namesIn twin.2 = RootReading.namesIn entry.2

namespace Call

/-- Whether a `:to` of the call may be the target of a root: of itself, or of one in its block. -/
def handsTarget (call : Call) : Bool := call.name = "root" || call.name = "with_options"

/-- Calls that differ in opaque text at most, apart from their blocks. A root names the same by each
`:to` that it may read and by the first argument of a root. -/
structure Alike (call twin : Call) : Prop where
  name : twin.name = call.name
  line : twin.line = call.line
  receiver : Option.Rel Value.Alike call.receiver twin.receiver
  arguments : Option.Rel (List.Forall₂ Value.Alike) call.arguments twin.arguments
  options : Option.Rel (List.Forall₂ (EntryAlike call.handsTarget)) call.options twin.options
  target : call.name = "root" →
    twin.firstArgument?.map RootReading.namesIn = call.firstArgument?.map RootReading.namesIn

/-! ## Parts of a call -/

namespace Alike

variable {call twin : Call} (alike : Alike call twin)
include alike

theorem firstArgument? : Option.Rel Value.Alike call.firstArgument? twin.firstArgument? := by
  rw [Call.firstArgument?, Call.firstArgument?]
  have arguments := alike.arguments
  generalize call.arguments = arguments at *
  generalize twin.arguments = others at *
  cases arguments with
  | none => exact .none
  | some arguments =>
    cases arguments with
    | nil => exact .none
    | cons first _ => exact .some first

theorem firstLiteral? : twin.firstLiteral? = call.firstLiteral? :=
  read_of_rel (·.bind Value.literal?) (fun _ _ first => first.literal?) alike.firstArgument?

theorem literalArguments : twin.literalArguments = call.literalArguments := by
  rw [Call.literalArguments, Call.literalArguments]
  have arguments := alike.arguments
  generalize call.arguments = arguments at *
  generalize twin.arguments = others at *
  cases arguments with
  | none => rfl
  | some arguments =>
    refine congrArg Except.ok (congrArg Value.nonempty ?_)
    induction arguments with
    | nil => rfl
    | cons first _ ih => rw [List.filterMap_cons, List.filterMap_cons, first.literal?, ih]

theorem keywordOptions :
    ReadAlike (Assoc.Alike (Value.AlikeFor call.handsTarget)) call.keywordOptions
      twin.keywordOptions := by
  refine keywordOptions_alike ?_ ?_ alike.options
  · rintro ⟨key, _⟩ ⟨other, _⟩ ⟨same, _, _⟩
    cases key <;> cases other <;> cases same <;> rfl
  · rintro ⟨key, value⟩ ⟨_, _⟩ same name symbol
    refine ⟨same.value, fun targets word => same.target targets ?_⟩
    cases key <;> cases symbol
    exact congrArg Atom.symbol word

theorem mapping? :
    ReadAlike (Option.Rel (EntryAlike call.handsTarget)) call.mapping? twin.mapping? := by
  rw [Call.mapping?, Call.mapping?]
  have options := alike.options
  generalize call.options = options at *
  generalize twin.options = others at *
  cases options with
  | none => exact .fault
  | some entries =>
    refine .read ?_
    induction entries with
    | nil => exact .none
    | @cons entry other _ _ same _ ih =>
      obtain ⟨key, _⟩ := entry
      obtain ⟨other, _⟩ := other
      have keys := same.key
      -- a key is a text on both sides or on none
      cases key <;> cases other <;> cases keys
      all_goals first | exact .some same | exact ih

theorem isNamedRoute (parameters : List String) :
    twin.isNamedRoute parameters = call.isNamedRoute parameters := by
  have named : twin.receiver.bind Value.identifier? = call.receiver.bind Value.identifier? :=
    read_of_rel (·.bind Value.identifier?) (fun _ _ receiver => receiver.identifier?) alike.receiver
  have text : twin.firstArgument?.any Value.isText = call.firstArgument?.any Value.isText :=
    read_of_rel (·.any Value.isText) (fun _ _ first => first.isText) alike.firstArgument?
  rw [isNamedRoute_eq, isNamedRoute_eq, named, text]

end Alike

end Call

/-! ## Readings -/

/-- A scope hands its controller down and nothing else. -/
theorem Frame.Alike.scoped {module : Option String} {controller twin : Value}
    (alike : Value.Alike controller twin) :
    Frame.Alike (Value.AlikeFor true) (.scoped module controller) (.scoped module twin) := by
  refine ⟨rfl, ?_, .nil⟩
  rw [Frame.defaults, Frame.defaults, alike.isGiven]
  split
  · have other : "controller" ≠ "to" := by decide
    exact .cons ⟨rfl, alike, fun _ word => absurd word other⟩ .nil
  · exact .nil

section Readings

variable {call twin : Call} (alike : Call.Alike call twin)
include alike

/-- The action that a verb adds. -/
theorem Call.Alike.extensionAction? :
    RouteTable.extensionAction? twin = RouteTable.extensionAction? call := by
  rw [extensionAction?_eq, extensionAction?_eq, alike.firstLiteral?]
  refine alike.keywordOptions.bind_eq fun own other written => ?_
  refine alike.mapping?.bind_eq fun mapping mapped related => ?_
  have action := (written.optionValue (.refl "action" _)).alike.literal?
  rw [written.contains, written.contains, action]
  cases related with
  | none => rfl
  | some related =>
    dsimp only
    rw [related.value.symbol?]

/-- The name that a verb adds to the innermost resource. -/
theorem Call.Alike.addedName? {around other : Surroundings}
    (grouping : other.grouping = around.grouping) :
    twin.addedName? other = call.addedName? around := by
  rw [Call.addedName?, Call.addedName?, grouping, alike.extensionAction?]
  have own := alike.keywordOptions
  generalize call.keywordOptions = own at *
  generalize twin.keywordOptions = other at *
  cases own with
  | fault => rfl
  | read written =>
    have on := (written.optionValue (.refl "on" _)).alike.literal?
    cases around.grouping with
    | none => rfl
    | some enclosing =>
      cases RouteTable.extensionAction? call with
      | error fault => rfl
      | ok action =>
        cases action with
        | none => rfl
        | some action =>
          dsimp only [Grouping.ofOption]
          rw [on]

/-- The frame that the block of a call gets. -/
theorem Call.Alike.frame? :
    ReadAlike (Option.Rel (Frame.Alike (Value.AlikeFor true))) call.frame? twin.frame? := by
  unfold Call.frame?
  rw [alike.name, alike.firstLiteral?]
  split
  · -- `scope` hands a controller down
    refine alike.keywordOptions.bind fun own other written => .read (.some ?_)
    have read (name : String) := (written.optionValue (.refl name _)).alike
    rw [(read "module").literal?]
    exact .scoped (read "controller")
  · split
    · -- `controller` does too
      refine .read (.some (.scoped ?_))
      exact read_of_rel (fun first : Option Value => (first.getD .nothing).redacted)
        (fun _ _ first => first) alike.firstArgument?
    · split
      · -- `with_options` hands all its options down, the target of a root among them
        next word =>
        refine alike.keywordOptions.bind fun own other written => .read (.some ⟨rfl, ?_, ?_⟩)
        all_goals
          have hands : call.handsTarget = true := by simp [Call.handsTarget, word]
          exact hands ▸ written
      · split
        · refine .read ?_
          cases call.firstLiteral?.filter (· ≠ "") with
          | none => exact .none
          | some name => exact .some (.refl Value.AlikeFor.refl _)
        · exact .read .none

variable {scopes others : Scopes} (around : Scopes.Alike (Value.AlikeFor true) scopes others)
include around

/-- What is read of a verb or a named route. -/
theorem Scopes.Alike.directReading :
    DirectReading.ofCall others.defaults twin = DirectReading.ofCall scopes.defaults call := by
  unfold DirectReading.ofCall
  refine alike.keywordOptions.bind_eq fun own other written => ?_
  refine alike.mapping?.bind_eq fun mapping mapped related => ?_
  have read := Value.AlikeFor.taken around.defaults written
  dsimp only
  rw [alike.firstLiteral?, written.contains, (read "controller").isPattern,
    (read "controller").literal?, (read "action").literal?, (read "module").literal?]
  cases related with
  | none =>
    dsimp only
    rw [(read "to").target]
  | @some entry twin related =>
    dsimp only
    rw [related.value.target, ← entry.1.literal?_redacted, ← related.key, Atom.literal?_redacted]

/-- What is read of a root. -/
theorem Scopes.Alike.rootReading (root : call.name = "root") :
    RootReading.ofCall others.defaults twin = RootReading.ofCall scopes.defaults call := by
  unfold RootReading.ofCall
  refine alike.keywordOptions.bind_eq fun own other written => ?_
  have hands : call.handsTarget = true := by simp [Call.handsTarget, root]
  rw [hands] at written
  have read := Value.AlikeFor.taken around.defaults written
  -- a `:to` comes from a frame or from the root itself, and both keep what a root names in it
  have target : Value.AlikeFor true "to" (RootReading.targetOf (scopes.defaults.merge own) call)
      (RootReading.targetOf (others.defaults.merge other) twin) := by
    unfold RootReading.targetOf
    rw [(read "to").isGiven]
    split
    · exact (around.defaults.merge written).optionValue (.refl "to" _)
    · have first := alike.firstArgument?
      have named := alike.target root
      generalize call.firstArgument? = value at *
      generalize twin.firstArgument? = argument at *
      cases first with
      | none => exact .refl "to" _
      | some first => exact ⟨first, fun _ _ => Option.some.inj named⟩
  dsimp only
  rw [target.alike.isRedirect, target.target rfl rfl, (read "controller").literal?,
    (read "action").literal?, (read "module").literal?]

theorem Scopes.Alike.directRoute (legacy : Bool) :
    RouteTable.directRoute others legacy twin = RouteTable.directRoute scopes legacy call := by
  rw [directRoute_eq, directRoute_eq, around.directReading alike, around.namespaces]

theorem Scopes.Alike.rootRoute (root : call.name = "root") :
    RouteTable.rootRoute others twin = RouteTable.rootRoute scopes call := by
  rw [rootRoute_eq, rootRoute_eq, around.rootReading alike root, around.namespaces]

/-- What is read of a resource declaration. -/
theorem Scopes.Alike.declaration :
    ResourceDeclaration.ofCall others twin = ResourceDeclaration.ofCall scopes call := by
  unfold ResourceDeclaration.ofCall
  rw [alike.literalArguments]
  refine alike.keywordOptions.bind_eq fun own other written => ?_
  have read := Value.AlikeFor.taken around.resourceDefaults written
  dsimp only
  rw [(read "only").namesOf, (read "except").namesOf, (read "member").namesOf,
    (read "collection").namesOf]
  simp only [around.controllersOf _ (read "controller").literal? (read "module").literal?]

end Readings

/-- The exception: an interpolated target of a root is read like any other text. -/
theorem rootRoute_interpolated (scopes : Scopes) (call : Call) (source : String)
    (rest : List Value) :
    rootRoute scopes { call with arguments := some (.interpolated source :: rest) } =
      rootRoute scopes { call with arguments := some (.text source :: rest) } := by
  rw [rootRoute_eq, rootRoute_eq]
  unfold RootReading.ofCall Call.keywordOptions
  cases call.options with
  | none => rfl
  | some entries =>
    simp only [bind, Except.bind, pure, Except.pure, Except.map, RootReading.targetOf]
    split
    · rfl
    · rfl

/-! ## Plans -/

/-- Calls that differ in opaque text have the same form. -/
theorem Call.Alike.form {call twin : Call} (alike : Alike call twin)
    (block : twin.hasBlock = call.hasBlock) {around other : Surroundings}
    (grouping : other.grouping = around.grouping)
    (parameters : other.parameters = around.parameters) : twin.form other = call.form around := by
  rw [form_eq, form_eq, grouping, parameters, wordForm?_congr alike.name block, receiverForm,
    receiverForm, alike.isNamedRoute]

/-- **Calls that differ in opaque text ask for the same**, and open frames that differ in it. -/
theorem Plan.ofForm_alike {call twin : Call} (alike : Call.Alike call twin)
    {around other : Surroundings}
    (scopes : Scopes.Alike (Value.AlikeFor true) around.scopes other.scopes)
    (grouping : other.grouping = around.grouping) (form : Form)
    (root : form = .root → call.name = "root") :
    Corresponds (Frame.Alike (Value.AlikeFor true)) id (ofForm around call form)
      (ofForm other twin form) := by
  have same : Call.SameReadings (Frame.Alike (Value.AlikeFor true)) around other call twin := {
    name := alike.name
    frame := alike.frame?
    added := alike.addedName? grouping
    direct := scopes.directRoute alike
    root := scopes.rootRoute alike
    declaration := scopes.declaration alike }
  exact .of_readings (.refl Value.AlikeFor.refl) same root

/-! ## Trees -/

/-- Trees that differ in opaque text at most. -/
def Comparison.redactions : Comparison where
  calls _ := Call.Alike

/-- Opaque text changes no plan. -/
def Simulation.redactions : Simulation .redactions where
  scopes := Scopes.Alike (Value.AlikeFor true)
  frames := Frame.Alike (Value.AlikeFor true)
  move := id
  enter outer frame := outer.cons frame
  line alike := alike.line
  plan same alike block := by
    have parameters := same.parameters.trans (List.map_id _)
    rw [Plan.ofCall_form, Plan.ofCall_form, alike.form block same.grouping parameters]
    exact Plan.ofForm_alike alike same.scopes same.grouping _ Call.form_root

namespace Recognizer

/-- **Opaque text decides no route, but for the target of a root.** Two files may differ in the
text of interpolated strings, patterns and other expressions, at any depth of their arguments and
options. What a root names is the same in both by the value of each `:to` of a root or of a
`with_options` call, even of one without a root in its block, and by the first argument of each
root, even beside a `:to`. Then they declare the same routes in the same order, on the same lines,
and in every state they give the innermost open resource the same names. -/
theorem walk_redacted {statements others : List Value}
    (same : Comparison.redactions.Statements false statements others) (state : Recognizer)
    (file : Option String) :
    (walk others state).registry = (walk statements state).registry ∧
      (walk others state).resources = (walk statements state).resources ∧
      (process file others state).1 = (process file statements state).1 := by
  have around (scopes : Scopes) : Simulation.redactions.scopes scopes scopes :=
    .refl Value.AlikeFor.refl scopes
  have walked := Simulation.walk_same rfl same (around state.scopes) nofun
  have parameters : state.parameters.map Comparison.redactions.parameter = state.parameters :=
    List.map_id _
  rw [parameters] at walked
  exact ⟨walked.1, walked.2, Simulation.process_same rfl same (around []) file state⟩

/-- A resource with an interpolated name and an interpolated item in an option, around a verb with
an interpolated path; a verb inside a frame that hands down a pattern as controller; and a root of
which the target names the same in both files. -/
theorem walk_redacted_nested :
    let file (text pattern : String) : List Value :=
      let search : Call := ⟨"get", 2, none, some [.interpolated text], some [], none⟩
      let posts : Call := ⟨"resources", 1, none, some [.symbol "posts", .interpolated text],
        some [(.symbol "only", .array [.interpolated text, .symbol "index"])],
        some ⟨some [], some [.call search]⟩⟩
      let about : Call := ⟨"get", 4, none, some [.text "/about"], some [], none⟩
      let pages : Call := ⟨"with_options", 3, none, some [],
        some [(.symbol "controller", .atom (.pattern pattern))], some ⟨some [], some [.call about]⟩⟩
      let home : Call := ⟨"root", 5, none, some [.interpolated "home#show"], some [], none⟩
      [.call posts, .call pages, .call home]
    let statements := file "#{first}" "a+"
    let others := file "other/#{second}#show" ""
    Comparison.redactions.Statements false statements others ∧
      (process none statements {}).1.map (·.text) =
        ["PostsController#index", "HomeController#show"] ∧
      (walk others {}).registry = (walk statements {}).registry ∧
      (walk others {}).resources = (walk statements {}).resources ∧
      (process none others {}).1 = (process none statements {}).1 := by
  intro file statements others
  have same : Comparison.redactions.Statements false statements others := by
    refine .call ⟨rfl, rfl, .none, .some (.cons rfl (.cons rfl .nil)),
        .some (.cons ⟨rfl, rfl, nofun⟩ .nil), ?posts⟩ (.given ?inPosts)
      (.call ⟨rfl, rfl, .none, .some .nil, .some (.cons ⟨rfl, rfl, ?controller⟩ .nil), ?pages⟩
        (.given ?inPages)
        (.call ⟨rfl, rfl, .none, .some (.cons rfl .nil), .some .nil, fun _ => rfl⟩ .absent .nil))
    case inPosts =>
      exact .call ⟨rfl, rfl, .none, .some (.cons rfl .nil), .some .nil, (absurd · (by decide))⟩
        .absent .nil
    case inPages =>
      exact .call ⟨rfl, rfl, .none, .some (.cons rfl .nil), .some .nil, (absurd · (by decide))⟩
        .absent .nil
    case controller => exact fun _ => (absurd · (by decide))
    all_goals exact (absurd · (by decide))
  exact ⟨same, by decide +kernel, walk_redacted same {} none⟩

/-- Two roots that differ in the text of an interpolated string alone: one of them declares a
route. -/
theorem process_interpolated_root :
    let file (target : String) : List Value :=
      [.call ⟨"root", 1, none, some [.interpolated target], some [], none⟩]
    Value.redactedAll (file "home#{page}") = Value.redactedAll (file "#{page}") ∧
      (process none (file "#{page}") {}).1.map (·.text) = [] ∧
      (process none (file "home#{page}") {}).1.map (·.text) = ["HomeController#{page}"] := by
  intro file
  exact ⟨rfl, by decide +kernel, by decide +kernel⟩

end Recognizer

end RouteTable
