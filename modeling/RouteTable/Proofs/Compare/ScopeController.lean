/-
**The controller of a scope and the resources inside.**

A scope may name a controller, and so does a `controller` block. Verbs, named routes and roots
inside take it over; resources never do, for they name their own. Whether a verb in the block of a
resource adds an action or is a direct route is asked of the verb alone. So the controllers of
scopes may be changed, written and taken away: the routes of resources stay as they are.

* `Plan.SameForResources`: plans that differ in direct routes and in what frames hand to them;
* `Call.SameButController.plan`: calls that differ in the controllers of scopes have such plans;
* `Traced.ofStatements_same`: such statements declare the same routes of resources;
* `process_sameResources`: so the files have the same routes of resources.
-/

import RouteTable.Proofs.Compare.Inlining
import RouteTable.Proofs.Compare.Origin
import RouteTable.Proofs.Scope.Defaults

namespace RouteTable

/-! ## Part 1 — plans -/

/-- Frames that are the same for resources: they add the same segment and hand the same options down
to resources. -/
structure Frame.SameForResources (frame twin : Frame) : Prop where
  segment : twin.segment? = frame.segment?
  resourceDefaults : twin.resourceDefaults = frame.resourceDefaults

/-- Scopes that are the same for resources. -/
structure Scopes.SameForResources (scopes others : Scopes) : Prop where
  namespaces : others.controllerNamespaces = scopes.controllerNamespaces
  resourceDefaults : others.resourceDefaults = scopes.resourceDefaults

theorem Scopes.SameForResources.cons {scopes others : Scopes}
    (outer : SameForResources scopes others) {frame twin : Frame}
    (same : frame.SameForResources twin) : SameForResources (frame :: scopes) (twin :: others) where
  namespaces := by
    rw [controllerNamespaces_cons, controllerNamespaces_cons, outer.namespaces, same.segment]
  resourceDefaults := by
    rw [resourceDefaults_cons, resourceDefaults_cons, outer.resourceDefaults,
      same.resourceDefaults]

/-- A resource declaration is the same inside scopes that are the same for resources. -/
theorem Scopes.SameForResources.declaration {scopes others : Scopes}
    (same : SameForResources scopes others) (call : Call) :
    ResourceDeclaration.ofCall others call = ResourceDeclaration.ofCall scopes call :=
  ResourceDeclaration.ofCall_congr same.namespaces (by rw [same.resourceDefaults])

/-- **Plans that are the same for resources**: direct routes may lead anywhere, and frames need only
be the same for resources. -/
inductive Plan.SameForResources : Except ShapeFault Plan → Except ShapeFault Plan → Prop
  | fault {fault other} : SameForResources (.error fault) (.error other)
  | outcome {found other} : SameForResources (.ok (.outcome found)) (.ok (.outcome other))
  | resource {kind declaration} :
      SameForResources (.ok (.resource kind declaration)) (.ok (.resource kind declaration))
  | extension {grouping action} :
      SameForResources (.ok (.extension grouping action)) (.ok (.extension grouping action))
  | frame {frame twin} : frame.SameForResources twin →
      SameForResources (.ok (.frame frame)) (.ok (.frame twin))
  | grouping {grouping} :
      SameForResources (.ok (.grouping grouping)) (.ok (.grouping grouping))
  | descend : SameForResources (.ok .descend) (.ok .descend)

namespace Plan.SameForResources

theorem refl (plan : Except ShapeFault Plan) : SameForResources plan plan := by
  cases plan with
  | error fault => exact .fault
  | ok plan =>
    cases plan with
    | outcome => exact .outcome
    | resource => exact .resource
    | extension => exact .extension
    | frame => exact .frame ⟨rfl, rfl⟩
    | grouping => exact .grouping
    | descend => exact .descend

/-- Direct routes of calls of which both or none have options. -/
theorem ofOutcomes {found other : Except ShapeFault Outcome} (same : other.isOk = found.isOk) :
    SameForResources (found.map .outcome) (other.map .outcome) := by
  cases found with
  | error fault =>
    cases other with
    | error => exact .fault
    | ok => cases same
  | ok outcome =>
    cases other with
    | error => cases same
    | ok => exact .outcome

end Plan.SameForResources

/-- A direct route is given up only if the options of the call are missing. -/
theorem directRoute_isOk (scopes : Scopes) (legacy : Bool) (call : Call) :
    (directRoute scopes legacy call).isOk = call.options.isSome := by
  rw [directRoute_eq]
  unfold DirectReading.ofCall Call.keywordOptions Call.mapping?
  cases call.options <;> rfl

/-- A root is given up only if its options are missing. -/
theorem rootRoute_isOk (scopes : Scopes) (call : Call) :
    (rootRoute scopes call).isOk = call.options.isSome := by
  rw [rootRoute_eq]
  unfold RootReading.ofCall Call.keywordOptions
  cases call.options <;> rfl

/-! ## Part 2 — calls -/

/-- Options without a controller. -/
def withoutController (entries : List (Atom × Value)) : List (Atom × Value) :=
  entries.filter fun entry => entry.1 ≠ .symbol "controller"

/-- **Calls that differ in the controllers of scopes alone**, apart from their blocks: in the
`:controller` options of a `scope`, and in the arguments of a `controller` block. -/
structure Call.SameButController (call twin : Call) : Prop where
  name : twin.name = call.name
  line : twin.line = call.line
  receiver : twin.receiver = call.receiver
  arguments : twin.arguments = call.arguments ∨ call.name = "controller" ∧ call.hasBlock
  options : twin.options = call.options ∨ call.name = "scope" ∧
    twin.options.map withoutController = call.options.map withoutController

namespace Call.SameButController

variable {call twin : Call} (same : SameButController call twin)
include same

theorem options_isSome : twin.options.isSome = call.options.isSome := by
  obtain options | ⟨-, options⟩ := same.options
  · rw [options]
  · simpa using congrArg Option.isSome options

/-- A controller does not change the module of a scope. -/
theorem module : ReadAlike (fun own other => optionValue other "module" = optionValue own "module")
    call.keywordOptions twin.keywordOptions := by
  obtain options | ⟨-, options⟩ := same.options
  · have equal : twin.keywordOptions = call.keywordOptions := by
      rw [Call.keywordOptions, Call.keywordOptions, options]
    rw [equal]
    cases call.keywordOptions with
    | error fault => exact .fault
    | ok own => exact .read rfl
  · rw [keywordOptions_eq, keywordOptions_eq]
    generalize call.options = written at *
    generalize twin.options = other at *
    cases written with
    | none =>
      obtain rfl := Option.map_eq_none_iff.mp options
      exact .fault
    | some entries =>
      obtain ⟨others, rfl, equal⟩ := Option.map_eq_some_iff.mp options
      refine .read ?_
      have read (entries : List (Atom × Value)) :
          Assoc.get? (.ofEntries (namedEntries entries)) "module" =
            Assoc.get? (withoutController entries).reverse (.symbol "module") := by
        rw [Assoc.get?_ofEntries, namedEntries, ← List.filterMap_reverse, ← namedEntries,
          get?_namedEntries, withoutController, ← List.filter_reverse,
          Assoc.get?_filter_ne _ (by decide)]
      rw [optionValue, optionValue]
      exact congrArg (Option.getD · _) ((read others).trans (equal ▸ (read entries).symm))

/-- The frames of both are the same for resources. -/
theorem frame? : ReadAlike (Option.Rel Frame.SameForResources) call.frame? twin.frame? := by
  have still (read : Except ShapeFault (Option Frame)) :
      ReadAlike (Option.Rel Frame.SameForResources) read read := by
    cases read with
    | error fault => exact .fault
    | ok opened =>
      cases opened with
      | none => exact .read .none
      | some frame => exact .read (.some ⟨rfl, rfl⟩)
  unfold Call.frame?
  rw [same.name]
  split
  · refine same.module.bind fun own other module => .read (.some ⟨?_, rfl⟩)
    exact congrArg Value.literal? module
  · next noScope =>
    split
    · exact .read (.some ⟨rfl, rfl⟩)
    · next noController =>
      have arguments : twin.arguments = call.arguments :=
        same.arguments.resolve_right fun changed => noController changed.1
      have options : twin.options = call.options :=
        same.options.resolve_right fun changed => noScope changed.1
      have own : twin.keywordOptions = call.keywordOptions := by
        rw [Call.keywordOptions, Call.keywordOptions, options]
      have first : twin.firstLiteral? = call.firstLiteral? := by
        rw [Call.firstLiteral?, Call.firstLiteral?, Call.firstArgument?, Call.firstArgument?,
          arguments]
      rw [own, first]
      exact still _

end Call.SameButController

/-- Surroundings that are the same for resources. -/
structure Surroundings.SameForResources (around other : Surroundings) : Prop where
  scopes : around.scopes.SameForResources other.scopes
  parameters : other.parameters = around.parameters
  grouping : other.grouping = around.grouping

/-- A frame is opened by both calls. -/
theorem Plan.SameForResources.ofFrame (around other : Surroundings) {call twin : Call}
    (same : call.SameButController twin) :
    SameForResources (ofForm around call .frame) (ofForm other twin .frame) := by
  have opened := same.frame?
  rw [ofForm, ofForm]
  generalize call.frame? = frame at *
  generalize twin.frame? = entered at *
  cases opened with
  | fault => exact .fault
  | read opened =>
    cases opened with
    | none => exact .descend
    | some frames => exact .frame frames

section Plans

variable {around other : Surroundings} (surroundings : around.SameForResources other)
include surroundings

/-- The plans of one call in surroundings that are the same for resources. -/
theorem Plan.SameForResources.ofForm (call : Call) (form : Form) :
    SameForResources (Plan.ofForm around call form) (Plan.ofForm other call form) := by
  have direct (legacy : Bool) :
      SameForResources ((directRoute around.scopes legacy call).map .outcome)
        ((directRoute other.scopes legacy call).map .outcome) :=
    .ofOutcomes (by rw [directRoute_isOk, directRoute_isOk])
  cases form with
  | resource kind =>
    rw [Plan.ofForm, Plan.ofForm, surroundings.scopes.declaration]
    exact .refl _
  | verb =>
    have added : call.addedName? other = call.addedName? around := by
      rw [Call.addedName?, Call.addedName?, surroundings.grouping]
    rw [Plan.ofForm, Plan.ofForm, ofVerb_eq, ofVerb_eq, added]
    cases call.addedName? around with
    | some added => exact .extension
    | none => exact direct _
  | root => exact .ofOutcomes (by rw [rootRoute_isOk, rootRoute_isOk])
  | named => exact direct true
  | frame | grouping | template | unknown => exact .refl _

variable {call twin : Call} (same : call.SameButController twin)
  (block : twin.hasBlock = call.hasBlock)
include same block

/-- Calls that differ in the controllers of scopes have the same form. -/
theorem Call.SameButController.form : twin.form other = call.form around := by
  obtain arguments | ⟨word, given⟩ := same.arguments
  · have named : twin.isNamedRoute other.parameters = call.isNamedRoute around.parameters := by
      rw [isNamedRoute_eq, isNamedRoute_eq, same.receiver, firstArgument?, firstArgument?,
        arguments, surroundings.parameters]
    rw [form_eq, form_eq, surroundings.grouping, wordForm?_congr same.name block, receiverForm,
      receiverForm, named]
  · have frame {call : Call} (word : call.name = "controller") : call.namesFrame := by
      simp [namesFrame, word]
    rw [form_of_namesFrame given (frame word),
      form_of_namesFrame (block.trans given) (frame (same.name.trans word))]

/-- **Calls that differ in the controllers of scopes have plans that are the same for
resources.** -/
theorem Call.SameButController.plan :
    Plan.SameForResources (Plan.ofCall around call) (Plan.ofCall other twin) := by
  have form := same.form surroundings block
  rw [Plan.ofCall_form, Plan.ofCall_form, form]
  have opened (given : call.hasBlock) (word : call.namesFrame) :
      Plan.SameForResources (Plan.ofForm around call (call.form around))
        (Plan.ofForm other twin (call.form around)) := by
    rw [form_of_namesFrame given word]
    exact .ofFrame around other same
  obtain arguments | ⟨word, given⟩ := same.arguments
  · obtain options | ⟨word, -⟩ := same.options
    · have equal : Plan.ofForm other twin (call.form around) =
          Plan.ofForm other call (call.form around) :=
        Plan.ofForm_congr rfl rfl arguments options (fun _ => same.name)
          (fun _ => by rw [same.name])
      rw [equal]
      exact .ofForm surroundings call _
    · cases given : call.hasBlock with
      | true => exact opened given (by simp [namesFrame, word])
      | false =>
        -- without a block a scope is a named route or nothing that is known
        have undecided : call.wordForm? around.grouping.isSome = none := by
          simp [wordForm?, given, word, ResourceKind.ofWord?, isVerb, verbs, legacyVerb]
        rw [form_eq, undecided, Option.getD_none, receiverForm]
        split
        · exact .ofOutcomes (by rw [directRoute_isOk, directRoute_isOk, same.options_isSome])
        · exact .descend
  · exact opened given (by simp [namesFrame, word])

end Plans

/-! ## Part 3 — trees -/

/-- Trees that differ in the controllers of scopes alone. -/
def Comparison.scopeControllers : Comparison where
  calls _ := Call.SameButController

namespace Traced

/-- Blocks that declare the same routes of resources. -/
def SameBodies (body other : Option (Surroundings → Option Traced)) : Prop :=
  Option.Rel (fun body other => ∀ around twin, around.SameForResources twin →
    (other twin).map ofResources = (body around).map ofResources) body other

/-- What is declared inside of such blocks. -/
theorem SameBodies.inside {body other : Option (Surroundings → Option Traced)}
    (bodies : SameBodies body other) {around twin : Surroundings}
    (same : around.SameForResources twin) :
    (inside other twin).ofResources = (inside body around).ofResources := by
  cases bodies with
  | none => rfl
  | @some body other bodies =>
    have contributed := bodies around twin same
    rw [ofResources, ofResources, only_inside, only_inside]
    exact congrArg (Option.getD · {}) contributed

/-- **One step: calls that differ in the controllers of scopes declare the same routes of resources
if their blocks do.** -/
theorem ofCall_same {around other : Surroundings} (same : around.SameForResources other)
    {call twin : Call} (calls : call.SameButController twin)
    (blocks : twin.hasBlock = call.hasBlock) (bodies : SameBodies (bodyOf call) (bodyOf twin)) :
    (ofCall other twin).ofResources = (ofCall around call).ofResources := by
  have plans := calls.plan same blocks
  rw [ofCall_planned, ofCall_planned, calls.line]
  generalize Plan.ofCall around call = plan at *
  generalize Plan.ofCall other twin = answer at *
  cases plans with
  | fault => rfl
  | outcome =>
    rw [ofResources, ofResources, only_ofPlan _ rfl, only_ofPlan _ rfl]
    rfl
  | extension => rfl
  | @resource kind declaration =>
    have opened : { around with grouping := some Grouping.member }.SameForResources
        { other with grouping := some .member } := ⟨same.scopes, same.parameters, rfl⟩
    dsimp only [ofPlan]
    generalize bodyOf call = body at *
    generalize bodyOf twin = other at *
    cases bodies with
    | none => rfl
    | some bodies =>
      rw [ofResources, ofResources, only_ofResource _ rfl, only_ofResource _ rfl]
      exact congrArg _ (bodies _ _ opened)
  | frame frames =>
    exact bodies.inside ⟨same.scopes.cons frames, same.parameters, same.grouping⟩
  | grouping => exact bodies.inside ⟨same.scopes, same.parameters, rfl⟩
  | descend => exact bodies.inside same

mutual

/-- **Statements that differ in the controllers of scopes declare the same routes of resources.** -/
theorem ofStatements_same : ∀ (statements : List Value) {inResource : Bool} {others : List Value}
    {around twin : Surroundings}, around.SameForResources twin →
    Comparison.scopeControllers.Statements inResource statements others →
    (ofStatements twin others).ofResources = (ofStatements around statements).ofResources
  | [], _, _, _, _, _, .nil => rfl
  | .call call :: rest, _, _, _, _, same, .call calls blocks others => by
    have first := ofCall_same same calls blocks.isSome (sameBodies call blocks)
    have further := ofStatements_same rest same others
    unfold ofResources at *
    rw [ofStatements, ofStatements, only_append, only_append, first, further]
  | .atom _ :: rest, _, _, _, _, same, .other _ quiet others => by
    rw [ofStatements_other quiet]
    exact ofStatements_same rest same others
  | .array _ :: rest, _, _, _, _, same, .other _ quiet others => by
    rw [ofStatements_other quiet]
    exact ofStatements_same rest same others
  | .hash _ :: rest, _, _, _, _, same, .other _ quiet others => by
    rw [ofStatements_other quiet]
    exact ofStatements_same rest same others
termination_by structural statements => statements

/-- So do the blocks of calls. -/
theorem sameBodies : ∀ (call : Call) {inResource : Bool} {twin : Call},
    Comparison.scopeControllers.Blocks inResource call.block twin.block →
    SameBodies (bodyOf call) (bodyOf twin)
  | ⟨_, _, _, _, _, none⟩, _, ⟨_, _, _, _, _, none⟩, _ => .none
  | ⟨_, _, _, _, _, some block⟩, _, ⟨_, _, _, _, _, some _⟩, blocks =>
    .some fun _ _ same => ofBlock_same block same blocks
termination_by structural call => call

theorem ofBlock_same : ∀ (block : Block) {inResource : Bool} {other : Block}
    {around twin : Surroundings}, around.SameForResources twin →
    Comparison.scopeControllers.Blocks inResource (some block) (some other) →
    (ofBlock twin other).map ofResources = (ofBlock around block).map ofResources
  | ⟨none, _⟩, _, _, _, _, _, .noParameters => rfl
  | ⟨some _, none⟩, _, _, _, _, _, .noBody => rfl
  | ⟨some parameters, some body⟩, _, _, around, twin, same, .given statements => by
    have within : { around with parameters := parameters ++ around.parameters }.SameForResources
        { twin with parameters := parameters.map id ++ twin.parameters } :=
      ⟨same.scopes, by rw [same.parameters, List.map_id], same.grouping⟩
    exact congrArg some (ofStatements_same body within statements)
termination_by structural block => block

end

end Traced

namespace Recognizer

/-- **The controller of a scope never reaches resources.** Two files may differ in the `:controller`
options of their scopes and in the arguments of their `controller` blocks, at any depth and in any
frames. Of the routes that are found in them, in order, those of resources are the same; only
direct routes may differ. -/
theorem process_sameResources {statements others : List Value}
    (same : Comparison.scopeControllers.Statements false statements others) (file : Option String)
    (state : Recognizer) :
    (process file statements state).1 = (tracedRoutes ⟨file, statements⟩).map Prod.snd ∧
      (process file others state).1 = (tracedRoutes ⟨file, others⟩).map Prod.snd ∧
      resourceRoutes ⟨file, others⟩ = resourceRoutes ⟨file, statements⟩ := by
  refine ⟨?_, ?_, ?_⟩
  · rw [process_routes, tracedRoutes_routes]
  · rw [process_routes, tracedRoutes_routes]
  · have outermost : Surroundings.outermost.SameForResources .outermost := ⟨⟨rfl, rfl⟩, rfl, rfl⟩
    rw [resourceRoutes_eq, resourceRoutes_eq, Traced.ofStatements_same statements outermost same]

/-- A scope with a controller around a resource, of which the block has a verb with a bare action
and one with a path; and a `controller` block around a resource and a verb, in a namespace. In the
other file the scope names another controller first and none in the end, and the block names
none. -/
theorem process_sameResources_nested :
    let block (body : List Value) : Option Block := some ⟨some [], some body⟩
    let verb (line : Int) (path : Value) : Value :=
      .call ⟨"get", line, none, some [path], some [], none⟩
    let resource (line : Int) (name : String) (body : List Value) : Value :=
      .call ⟨"resources", line, none, some [.symbol name], some [(.symbol "only", .symbol "index")],
        block body⟩
    let file (scope : List (Atom × Value)) (controller : List Value) : List Value :=
      let posts := resource 3 "posts" [verb 4 (.symbol "search"), verb 5 (.text "archive/list")]
      let users : Call := ⟨"controller", 6, none, some controller, some [],
        block [resource 7 "photos" [], verb 8 (.text "/about")]⟩
      let pages : Call := ⟨"scope", 2, none, some [],
        some (scope ++ [(.symbol "module", .text "web")]), block [posts, .call users]⟩
      [.call ⟨"namespace", 1, none, some [.symbol "admin"], some [], block [.call pages]⟩]
    let statements := file [(.symbol "controller", .text "pages")] [.symbol "users"]
    let others := file [(.symbol "controller", .symbol "info"), (.symbol "controller", .nothing)] []
    Comparison.scopeControllers.Statements false statements others ∧
      (process none statements {}).1.map (·.text) = ["Admin::Web::PostsController#index",
        "Admin::Web::PagesController#list", "Admin::Web::PostsController#search",
        "Admin::Web::PhotosController#index", "Admin::Web::UsersController#about"] ∧
      (process none others {}).1.map (·.text) = ["Admin::Web::PostsController#index",
        "Admin::Web::ArchiveController#list", "Admin::Web::PostsController#search",
        "Admin::Web::PhotosController#index"] ∧
      resourceRoutes ⟨none, others⟩ = resourceRoutes ⟨none, statements⟩ := by
  intro block verb resource file statements others
  have reflexive : Comparison.scopeControllers.Reflexive :=
    ⟨fun _ call => ⟨rfl, rfl, rfl, .inl rfl, .inl rfl⟩, rfl⟩
  have same : Comparison.scopeControllers.Statements false statements others :=
    .call ⟨rfl, rfl, rfl, .inl rfl, .inl rfl⟩
      (.given (.call ⟨rfl, rfl, rfl, .inl rfl, .inr ⟨rfl, rfl⟩⟩
        (.given (.call (reflexive.calls _ _) (.refl reflexive _ _)
          (.call ⟨rfl, rfl, rfl, .inr ⟨rfl, rfl⟩, .inl rfl⟩
            (.given (.refl reflexive _ _)) .nil)))
        .nil))
      .nil
  exact ⟨same, by decide +kernel, by decide +kernel, (process_sameResources same none {}).2.2⟩

end Recognizer

end RouteTable
