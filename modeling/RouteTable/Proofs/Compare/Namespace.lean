/-
**Namespaces stand around what is inside them.**

The frames around a call do two things: they hand options down, and they put namespaces around the
controllers that the call names. The second never decides anything. So what statements contribute
in frames is what they contribute in the bare frames, which hand down the same options, with the
namespaces of the frames put before those of every controller.

* `ofBlock_within`: the contribution of a block, with the namespaces taken out;
* `walk_namespace`: a `namespace` block lists the routes of its block with one more namespace.
-/

import RouteTable.Proofs.Compare.Trees
import RouteTable.Proofs.Walk.Reading

namespace RouteTable

/-- A controller inside further namespaces. -/
def ControllerId.within (outer : List String) (controller : ControllerId) : ControllerId :=
  { controller with namespaces := outer ++ controller.namespaces }

/-- A frame that hands down the same options and adds no namespace. -/
def Frame.bare : Frame → Frame
  | .namespaced _ => .withOptions []
  | .scoped _ controller => .scoped none controller
  | .withOptions defaults => .withOptions defaults

/-- Scopes that differ in the namespaces they put around a controller, and in nothing else. -/
structure Scopes.Inside (outer : List String) (plain scopes : Scopes) : Prop where
  namespaces : scopes.controllerNamespaces = outer ++ plain.controllerNamespaces
  defaults : scopes.defaults = plain.defaults
  resourceDefaults : scopes.resourceDefaults = plain.resourceDefaults

namespace Scopes

/-- Both sides enter the same frame. -/
theorem Inside.cons {outer : List String} {plain scopes : Scopes}
    (inside : Inside outer plain scopes) (frame : Frame) :
    Inside outer (frame :: plain) (frame :: scopes) where
  namespaces := by
    rw [controllerNamespaces_cons, controllerNamespaces_cons, inside.namespaces, List.append_assoc]
  defaults := by rw [defaults_cons, defaults_cons, inside.defaults]
  resourceDefaults := by
    rw [resourceDefaults_cons, resourceDefaults_cons, inside.resourceDefaults]

/-- The scopes inside a `namespace` block; an empty name puts no frame around it. -/
def enterNamespace (name : String) (scopes : Scopes) : Scopes :=
  (((some name).filter (· ≠ "")).map Frame.namespaced).toList ++ scopes

/-- A namespace is entered on one side only. -/
theorem Inside.enterNamespace {outer : List String} {plain scopes : Scopes}
    (inside : Inside outer plain scopes) (bare : plain.controllerNamespaces = []) (name : String) :
    Inside (outer ++ camelizeSegments name) plain (scopes.enterNamespace name) := by
  by_cases empty : name = ""
  · subst empty
    show Inside (outer ++ []) plain scopes
    rwa [List.append_nil]
  · have entered : scopes.enterNamespace name = .namespaced name :: scopes := by
      simp [Scopes.enterNamespace, Option.filter, empty]
    rw [entered]
    refine ⟨?_, inside.defaults, inside.resourceDefaults⟩
    rw [controllerNamespaces_cons, inside.namespaces, bare, List.append_nil, List.append_nil]
    rfl

theorem controllerNamespaces_bare (scopes : Scopes) :
    controllerNamespaces (scopes.map Frame.bare) = [] := by
  induction scopes with
  | nil => rfl
  | cons frame outer ih =>
    rw [List.map_cons, controllerNamespaces_cons, ih]
    cases frame <;> rfl

/-- Bare frames hand down the options of the frames. -/
theorem inside_bare (scopes : Scopes) :
    Inside scopes.controllerNamespaces (scopes.map Frame.bare) scopes := by
  refine ⟨by rw [controllerNamespaces_bare, List.append_nil], ?_, ?_⟩
  · induction scopes with
    | nil => rfl
    | cons frame outer ih =>
      rw [List.map_cons, defaults_cons, defaults_cons, ih]
      cases frame <;> rfl
  · induction scopes with
    | nil => rfl
    | cons frame outer ih =>
      rw [List.map_cons, resourceDefaults_cons, resourceDefaults_cons, ih]
      cases frame <;> rfl

end Scopes

/-! ## Plans -/

theorem ControllerId.ofName?_within (outer inner : List String) (name : String) :
    ofName? (outer ++ inner) name = (ofName? inner name).map (within outer) := by
  unfold ofName?
  dsimp only
  rw [Option.map_map]
  congr 1
  funext base
  exact congrArg (mk · base) (List.append_assoc _ _ _)

theorem Naming.outcome_within (outer namespaces : List String) (naming : Naming) :
    naming.outcome (outer ++ namespaces) = (naming.outcome namespaces).moved (.within outer) := by
  unfold outcome
  cases naming.names with
  | error reason => rfl
  | ok names =>
    dsimp only
    rw [List.append_assoc, ControllerId.ofName?_within]
    cases ControllerId.ofName? _ names.1 <;> rfl

namespace Scopes.Inside

variable {outer : List String} {plain scopes : Scopes} (inside : Inside outer plain scopes)
include inside

theorem directRoute (legacy : Bool) (call : Call) :
    RouteTable.directRoute scopes legacy call =
      (RouteTable.directRoute plain legacy call).map (·.moved (.within outer)) := by
  rw [directRoute_eq, directRoute_eq, inside.defaults, inside.namespaces]
  cases DirectReading.ofCall plain.defaults call with
  | error fault => rfl
  | ok reading => exact congrArg Except.ok (Naming.outcome_within _ _ _)

theorem rootRoute (call : Call) :
    RouteTable.rootRoute scopes call =
      (RouteTable.rootRoute plain call).map (·.moved (.within outer)) := by
  rw [rootRoute_eq, rootRoute_eq, inside.defaults, inside.namespaces]
  cases RootReading.ofCall plain.defaults call with
  | error fault => rfl
  | ok reading => exact congrArg Except.ok (Naming.outcome_within _ _ _)

theorem controllersOf (names : List String) (options : Assoc String Value) :
    scopes.controllersOf names options =
      (plain.controllersOf names options).map (.within outer) := by
  unfold Scopes.controllersOf Scopes.controllerOf?
  dsimp only
  rw [List.map_filterMap]
  congr 1
  funext name
  rw [inside.namespaces, List.append_assoc, ControllerId.ofName?_within]

theorem declaration (call : Call) :
    ResourceDeclaration.ofCall scopes call =
      (ResourceDeclaration.ofCall plain call).map (·.moved (.within outer)) := by
  unfold ResourceDeclaration.ofCall
  cases call.keywordOptions with
  | error fault => rfl
  | ok own =>
    cases call.literalArguments with
    | error fault => rfl
    | ok names =>
      simp only [bind, Except.bind, pure, Except.pure, Except.map, inside.resourceDefaults,
        inside.controllersOf]
      rfl

end Scopes.Inside

/-- Plans that lead to outcomes correspond if the outcomes do. -/
theorem Plan.Corresponds.ofOutcome {frames : Frame → Frame → Prop}
    {move : ControllerId → ControllerId} (found : Except ShapeFault Outcome) :
    Corresponds frames move (found.map .outcome) ((found.map (·.moved move)).map .outcome) := by
  cases found with
  | error fault => exact .fault
  | ok outcome => exact .outcome

/-- In scopes that differ in their namespaces a call has the same plan, with its controllers in
further namespaces. -/
theorem Plan.ofForm_within {outer : List String} {plain around : Surroundings}
    (inside : Scopes.Inside outer plain.scopes around.scopes)
    (grouping : around.grouping = plain.grouping) (call : Call) (form : Form) :
    Corresponds Eq (.within outer) (ofForm plain call form) (ofForm around call form) := by
  cases form with
  | resource kind =>
    rw [ofForm, ofForm, inside.declaration]
    cases ResourceDeclaration.ofCall plain.scopes call with
    | error fault => exact .fault
    | ok declaration =>
      dsimp only [Except.map, ResourceDeclaration.moved]
      rw [List.isEmpty_map]
      cases declaration.controllers.isEmpty with
      | true => exact .outcome
      | false => exact .resource
  | frame =>
    rw [ofForm, ofForm]
    cases call.frame? with
    | error fault => exact .fault
    | ok opened =>
      cases opened with
      | none => exact .descend
      | some frame => exact .frame rfl
  | grouping opened => exact .grouping
  | verb =>
    rw [ofForm, ofForm, ofVerb_eq, ofVerb_eq, inside.directRoute]
    have added : call.addedName? around = call.addedName? plain := by
      rw [Call.addedName?, Call.addedName?, grouping]
    rw [added]
    cases call.addedName? plain with
    | some name => exact .extension
    | none => exact .ofOutcome _
  | root =>
    rw [ofForm, ofForm, inside.rootRoute]
    exact .ofOutcome _
  | template => exact .outcome
  | named =>
    rw [ofForm, ofForm, inside.directRoute]
    exact .ofOutcome _
  | unknown => exact .descend

/-! ## Blocks -/

/-- Trees that are the same. -/
def Comparison.same : Comparison where
  calls _ call twin := twin = call

theorem Comparison.same_reflexive : Comparison.same.Reflexive := ⟨fun _ _ => rfl, rfl⟩

/-- Further namespaces around the same tree move its controllers. -/
def Simulation.within (outer : List String) : Simulation .same where
  scopes := Scopes.Inside outer
  frames := Eq
  move := .within outer
  enter := by
    rintro plain scopes frame _ inside rfl
    exact inside.cons frame
  line := congrArg Call.line
  plan := by
    rintro _ plain around call twin same rfl _
    have parameters : around.parameters = plain.parameters :=
      same.parameters.trans (List.map_id _)
    rw [Plan.ofCall_form, Plan.ofCall_form, Call.form_eq, Call.form_eq, same.grouping, parameters]
    exact Plan.ofForm_within same.scopes same.grouping _ _

/-- What a block contributes in some frames is what it contributes in frames without their
namespaces, with these put around it. -/
theorem Contribution.ofBlock_within {outer : List String} {plain scopes : Scopes}
    (inside : Scopes.Inside outer plain scopes) (around : Surroundings) (block : Block) :
    ofBlock { around with scopes } block =
      (ofBlock { around with scopes := plain } block).map (·.moved (.within outer)) := by
  have same : (Simulation.within outer).Around false { around with scopes := plain }
      { around with scopes } := ⟨inside, (List.map_id _).symm, rfl, nofun⟩
  exact Simulation.ofBlock_eq block same
    (Comparison.Blocks.some_refl Comparison.same_reflexive block false)

/-- A route with its controller inside further namespaces. -/
def Route.within (outer : List String) (route : Route) : Route :=
  { route with controller := route.controller.within outer }

theorem Contribution.routesIn_within (outer : List String) (added : Contribution)
    (file : Option String) :
    (added.moved (.within outer)).routesIn file = (added.routesIn file).map (.within outer) := by
  simp only [routesIn, moved, List.map_map]
  rfl

/-- What a block contributes, if anything is known of it, inside namespaces. -/
theorem Contribution.inside_within {outer : List String} {plain scopes : Scopes}
    (inside : Scopes.Inside outer plain scopes) (around : Surroundings) (block : Block) :
    Contribution.inside (some fun inner => ofBlock inner block) { around with scopes } =
      (Contribution.inside (some fun inner => ofBlock inner block)
        { around with scopes := plain }).moved (.within outer) := by
  show (ofBlock { around with scopes } block).getD {} = _
  rw [ofBlock_within inside]
  show _ = ((ofBlock { around with scopes := plain } block).getD {}).moved _
  cases ofBlock { around with scopes := plain } block <;> rfl

/-- What a `namespace` call with a literal name contributes. -/
theorem Contribution.ofCall_namespace (around : Surroundings) {named : Value} {name : String}
    (literal : named.literal? = some name) (block : Block) (line : Int) (receiver : Option Value)
    (arguments : List Value) (options : Option (List (Atom × Value))) :
    ofCall around ⟨"namespace", line, receiver, some (named :: arguments), options, some block⟩ =
      Contribution.inside (some fun inner => ofBlock inner block)
        { around with scopes := around.scopes.enterNamespace name } := by
  refine ofCall_frame rfl ?_
  simp [Call.frame?, Call.firstLiteral?, Call.firstArgument?, literal]
  rfl

/-- What a call of an unknown name contributes that is not called on anything. -/
theorem Contribution.ofCall_label (around : Surroundings) {label : String}
    (unknown : label ∉ Call.knownNames) (block : Block) (line : Int)
    (arguments : Option (List Value)) (options : Option (List (Atom × Value))) :
    ofCall around ⟨label, line, none, arguments, options, some block⟩ =
      Contribution.inside (some fun inner => ofBlock inner block) around := by
  refine ofCall_unknown ?_
  rw [Call.form_eq, Call.wordForm?_unknown unknown]
  rfl

namespace Recognizer

/-- **A namespace is put around what its block declares, right inside the namespaces that are there
already.** From every state, a `namespace` call with a literal name and a call of an unknown name,
both with the same block, give the innermost open resource the same names, and list the same routes
in the same order, once inside the namespaces of the state and the segments of the name and once
inside the namespaces of the state alone. -/
theorem walk_namespace (state : Recognizer) {named : Value} {name label : String}
    (literal : named.literal? = some name) (unknown : label ∉ Call.knownNames) (block : Block)
    (line other : Int) (receiver : Option Value) (arguments : List Value)
    (options others : Option (List (Atom × Value))) :
    let outer := state.scopes.controllerNamespaces
    let inside := walk
      [.call ⟨"namespace", line, receiver, some (named :: arguments), options, some block⟩] state
    let plain := walk [.call ⟨label, other, none, some [], others, some block⟩] state
    inside.resources = plain.resources ∧
      ∃ emitted : List Route,
        inside.registry.toList = state.registry.toList ++
          emitted.map (.within (outer ++ camelizeSegments name)) ∧
        plain.registry.toList = state.registry.toList ++ emitted.map (.within outer) := by
  intro outer inside plain
  have bare := Scopes.inside_bare state.scopes
  have entered := bare.enterNamespace (Scopes.controllerNamespaces_bare state.scopes) name
  -- the contribution of the block without the namespaces around it
  let inner := Contribution.inside (some fun inner => Contribution.ofBlock inner block)
    { state.surroundings with scopes := state.scopes.map Frame.bare }
  have namespaced : Contribution.ofStatements state.surroundings
      [.call ⟨"namespace", line, receiver, some (named :: arguments), options, some block⟩] =
        inner.moved (.within (outer ++ camelizeSegments name)) := by
    rw [Contribution.ofStatements_single, Contribution.ofCall_namespace _ literal]
    exact Contribution.inside_within entered state.surroundings block
  have labelled : Contribution.ofStatements state.surroundings
      [.call ⟨label, other, none, some [], others, some block⟩] = inner.moved (.within outer) := by
    rw [Contribution.ofStatements_single, Contribution.ofCall_label _ unknown]
    exact Contribution.inside_within bare state.surroundings block
  have walked := walk_adds
    [.call ⟨"namespace", line, receiver, some (named :: arguments), options, some block⟩] state
  have plainWalked := walk_adds
    [.call ⟨label, other, none, some [], others, some block⟩] state
  rw [namespaced] at walked
  rw [labelled] at plainWalked
  refine ⟨walked.resources.trans plainWalked.resources.symm, inner.routesIn state.file, ?_, ?_⟩
  · rw [← Contribution.routesIn_within]
    exact walked.registry
  · rw [← Contribution.routesIn_within]
    exact plainWalked.registry

/-- Inside an open resource of another namespace: a block with a resource, a verb for that resource
and a verb for the resource around it. -/
theorem walk_namespace_nested :
    let search : Call := ⟨"get", 4, none, some [.symbol "search"], some [], none⟩
    let posts : Call := ⟨"resources", 3, none, some [.symbol "posts"],
      some [(.symbol "only", .symbol "index")], some ⟨some [], some [.call search]⟩⟩
    let block : Block := ⟨some ["api"], some [.call posts, .call search]⟩
    let state : Recognizer :=
      { scopes := [.namespaced "admin"], resources := [⟨[⟨["Admin"], "Users"⟩], [], [], .member⟩] }
    let inside := walk
      [.call ⟨"namespace", 2, none, some [.text "api/v1"], some [], some block⟩] state
    let plain := walk [.call ⟨"constraints", 2, none, some [], some [], some block⟩] state
    Value.literal? (.text "api/v1") = some "api/v1" ∧ "constraints" ∉ Call.knownNames ∧
      inside.registry.toList.map (·.text) =
        ["Admin::Api::V1::PostsController#index", "Admin::Api::V1::PostsController#search"] ∧
      inside.resources = plain.resources ∧
      ∃ emitted : List Route,
        inside.registry.toList = emitted.map (.within ["Admin", "Api", "V1"]) ∧
        plain.registry.toList = emitted.map (.within ["Admin"]) := by
  intro search posts block state inside plain
  have unknown : "constraints" ∉ Call.knownNames := by decide
  have outer : state.scopes.controllerNamespaces = ["Admin"] := by decide +kernel
  have segments : camelizeSegments "api/v1" = ["Api", "V1"] := by decide +kernel
  have literal : Value.literal? (.text "api/v1") = some "api/v1" := rfl
  have walked := walk_namespace state literal unknown block 2 2 none [] (some []) (some [])
  dsimp only at walked
  rw [outer, segments] at walked
  exact ⟨literal, unknown, by decide +kernel, walked⟩

end Recognizer

end RouteTable
