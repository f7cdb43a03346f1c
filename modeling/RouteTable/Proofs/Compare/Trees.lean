/-
**Two trees side by side.**

Some changes of a tree of calls leave what it declares as it is, or move every route in the same
way. Such a change is told by a comparison, which says of two calls whether they may stand at the
same place. Trees correspond if they have the same shape and corresponding calls.

* `ofCall_planned`: a call contributes what its plan says;
* `Simulation`: what a comparison has to keep of the plan of a call;
* `Simulation.ofStatements_eq`: then whole trees contribute the same, moved;
* `Simulation.walk_same`, `Simulation.process_same`: and a walk that moves nothing ends alike.
-/

import RouteTable.Proofs.Walk.History

namespace RouteTable

/-! ## Part 1 — contributions by plan -/

namespace Contribution

/-- What is contributed inside a block, which may be missing or impossible to go through. -/
def inside (body : Option (Surroundings → Option Contribution)) (around : Surroundings) :
    Contribution :=
  ((body.getD fun _ => some {}) around).getD {}

/-- What a planned call contributes, where `body` tells what its block contributes. -/
def ofPlan (around : Surroundings) (line : Int)
    (body : Option (Surroundings → Option Contribution)) : Except ShapeFault Plan → Contribution
  | .error _ => {}
  | .ok (.outcome outcome) => ofOutcome line (.ok outcome)
  | .ok (.extension grouping action) => ofName grouping action
  | .ok (.resource kind declaration) =>
    match body with
    | none => ofEndpoints line (Recognizer.endpoints declaration.controllers (kind.allActions
        declaration.only declaration.except declaration.member declaration.collection))
    | some body => ofResource kind declaration line (body { around with grouping := some .member })
  | .ok (.frame frame) => inside body { around with scopes := frame :: around.scopes }
  | .ok (.grouping grouping) => inside body { around with grouping := some grouping }
  | .ok .descend => inside body around

theorem ofPlan_outcome (around : Surroundings) (line : Int)
    (body : Option (Surroundings → Option Contribution)) (found : Except ShapeFault Outcome) :
    ofPlan around line body (found.map .outcome) = ofOutcome line found := by
  cases found <;> rfl

/-- What the block of a call contributes. -/
def bodyOf (call : Call) : Option (Surroundings → Option Contribution) :=
  call.block.map fun block inner => ofBlock inner block

/-- **A call contributes what its plan says.** -/
theorem ofCall_planned (around : Surroundings) (call : Call) :
    ofCall around call = ofPlan around call.line (bodyOf call) (Plan.ofCall around call) := by
  obtain ⟨name, line, receiver, arguments, options, block⟩ := call
  rw [ofCall.eq_def, Plan.ofCall_form]
  dsimp only
  cases Call.form ⟨name, line, receiver, arguments, options, block⟩ around with
  | resource kind =>
    rw [Plan.ofForm]
    cases ResourceDeclaration.ofCall around.scopes
        ⟨name, line, receiver, arguments, options, block⟩ with
    | error fault => rfl
    | ok declaration =>
      dsimp only [Except.map]
      cases declaration.controllers.isEmpty <;> cases block <;> rfl
  | frame =>
    rw [Plan.ofForm]
    cases Call.frame? ⟨name, line, receiver, arguments, options, block⟩ with
    | error fault => rfl
    | ok opened => cases opened <;> cases block <;> rfl
  | grouping grouping => cases block <;> rfl
  | verb =>
    rw [Plan.ofForm, Plan.ofVerb_eq, ofVerb]
    cases Call.addedName? ⟨name, line, receiver, arguments, options, block⟩ around with
    | some added => rfl
    | none => exact (ofPlan_outcome around line _ _).symm
  | root => exact (ofPlan_outcome around line _ _).symm
  | template => rfl
  | named => exact (ofPlan_outcome around line _ _).symm
  | unknown => cases block <;> rfl

/-- A call with a frame contributes what its block does inside the frame. -/
theorem ofCall_frame {around : Surroundings} {call : Call} {opened : Option Frame}
    (form : call.form around = .frame) (frame : call.frame? = .ok opened) :
    ofCall around call =
      inside (bodyOf call) { around with scopes := opened.toList ++ around.scopes } := by
  rw [ofCall_planned, Plan.ofCall_form, form, Plan.ofForm, frame]
  cases opened <;> rfl

/-- A call with a block and with the name of a frame contributes what the block does inside it. -/
theorem ofCall_opens (around : Surroundings) {call : Call} {block : Block}
    (given : call.block = some block) (word : call.namesFrame) {opened : Option Frame}
    (frame : call.frame? = .ok opened) :
    ofCall around call = inside (some fun inner => ofBlock inner block)
      { around with scopes := opened.toList ++ around.scopes } := by
  have form : call.form around = .frame :=
    Call.form_of_namesFrame (by rw [Call.hasBlock, given]; rfl) word
  rw [ofCall_frame form frame, bodyOf, given]
  rfl

/-- A verb contributes the name that it adds, or else its direct route. -/
theorem ofCall_verb {around : Surroundings} {call : Call} (form : call.form around = .verb) :
    ofCall around call = ofVerb around call := by
  rw [ofCall_planned, Plan.ofCall_form, form, Plan.ofForm, Plan.ofVerb_eq, ofVerb]
  cases call.addedName? around with
  | some added => rfl
  | none => exact ofPlan_outcome around call.line _ _

theorem ofCall_root {around : Surroundings} {call : Call} (form : call.form around = .root) :
    ofCall around call = ofOutcome call.line (rootRoute around.scopes call) := by
  rw [ofCall_planned, Plan.ofCall_form, form]
  exact ofPlan_outcome around call.line _ _

/-- A named route contributes its direct route. -/
theorem ofCall_named {around : Surroundings} {call : Call} (form : call.form around = .named) :
    ofCall around call = ofOutcome call.line (directRoute around.scopes true call) := by
  rw [ofCall_planned, Plan.ofCall_form, form]
  exact ofPlan_outcome around call.line _ _

/-- A call of which nothing is known contributes what its block does. -/
theorem ofCall_unknown {around : Surroundings} {call : Call} (form : call.form around = .unknown) :
    ofCall around call = inside (bodyOf call) around := by
  rw [ofCall_planned, Plan.ofCall_form, form]
  rfl

end Contribution

/-! ## Part 2 — moved controllers -/

section Moved

variable (move : ControllerId → ControllerId)

/-- An endpoint with its controller moved. -/
def Endpoint.moved (endpoint : Endpoint) : Endpoint :=
  { endpoint with controller := move endpoint.controller }

/-- An outcome with its controller moved. -/
def Outcome.moved : Outcome → Outcome
  | .route endpoint => .route (endpoint.moved move)
  | .skipped reason => .skipped reason
  | .nowhere => .nowhere

/-- A declaration with its controllers moved. -/
def ResourceDeclaration.moved (declaration : ResourceDeclaration) : ResourceDeclaration :=
  { declaration with controllers := declaration.controllers.map move }

namespace Contribution

/-- A contribution with its controllers moved. -/
def moved (added : Contribution) : Contribution :=
  { added with routes := added.routes.map fun declared => (declared.1.moved move, declared.2) }

theorem moved_append (first second : Contribution) :
    (first ++ second).moved move = first.moved move ++ second.moved move := by
  show (⟨_, _, _⟩ : Contribution) = ⟨_, _, _⟩
  rw [routes_append, List.map_append]
  rfl

theorem moved_id (added : Contribution) : added.moved id = added := by
  simp [moved, Endpoint.moved]

theorem moved_ofEndpoints (line : Int) (controllers : List ControllerId) (actions : List String) :
    (ofEndpoints line (Recognizer.endpoints controllers actions)).moved move =
      ofEndpoints line (Recognizer.endpoints (controllers.map move) actions) := by
  simp only [moved, ofEndpoints, Recognizer.endpoints, List.map_flatMap, List.flatMap_map,
    List.map_map]
  rfl

theorem moved_ofOutcome (line : Int) (outcome : Outcome) :
    (ofOutcome line (.ok outcome)).moved move = ofOutcome line (.ok (outcome.moved move)) := by
  cases outcome <;> rfl

theorem moved_ofName (grouping : Grouping) (action : String) :
    (ofName grouping action).moved move = ofName grouping action := by
  cases grouping <;> rfl

theorem moved_ofResource (kind : ResourceKind) (declaration : ResourceDeclaration) (line : Int)
    (inner : Option Contribution) :
    (ofResource kind declaration line inner).moved move =
      ofResource kind (declaration.moved move) line (inner.map (·.moved move)) := by
  unfold ofResource
  rw [moved_append, moved_ofEndpoints]
  cases inner with
  | none => rfl
  | some inner =>
    dsimp only [Option.map_some]
    rw [moved_append, moved_ofEndpoints]
    rfl

end Contribution

end Moved

/-! ## Part 3 — corresponding trees -/

/-- What may differ between two trees of the same shape: the calls at the same place, apart from
their blocks, and the names of block parameters. It is known of a place whether a resource block is
around it. -/
structure Comparison where
  calls : Bool → Call → Call → Prop
  parameter : String → String := id

/-- Whether a statement is a call. -/
def Value.isCall : Value → Bool
  | .call _ => true
  | _ => false

/-- What is not a call contributes nothing. -/
theorem Contribution.ofStatements_other {around : Surroundings} {value : Value}
    (quiet : value.isCall = false) (rest : List Value) :
    ofStatements around (value :: rest) = ofStatements around rest := by
  cases value with
  | call call => cases quiet
  | atom | array | hash => rfl

namespace Comparison

mutual

/-- **Statements that correspond one by one.** -/
inductive Statements (compare : Comparison) : Bool → List Value → List Value → Prop
  | nil {inResource} : Statements compare inResource [] []
  | call {inResource call twin rest others} :
      compare.calls inResource call twin →
      Blocks compare (inResource || (ResourceKind.ofWord? call.name).isSome) call.block twin.block →
      Statements compare inResource rest others →
      Statements compare inResource (.call call :: rest) (.call twin :: others)
  | other {inResource value twin rest others} :
      value.isCall = false → twin.isCall = false →
      Statements compare inResource rest others →
      Statements compare inResource (value :: rest) (twin :: others)

/-- Blocks of which the statements correspond; a part that is missing is missing in both. -/
inductive Blocks (compare : Comparison) : Bool → Option Block → Option Block → Prop
  | absent {inResource} : Blocks compare inResource none none
  | noParameters {inResource body other} :
      Blocks compare inResource (some ⟨none, body⟩) (some ⟨none, other⟩)
  | noBody {inResource parameters} :
      Blocks compare inResource (some ⟨some parameters, none⟩)
        (some ⟨some (parameters.map compare.parameter), none⟩)
  | given {inResource parameters body other} :
      Statements compare inResource body other →
      Blocks compare inResource (some ⟨some parameters, some body⟩)
        (some ⟨some (parameters.map compare.parameter), some other⟩)

end

variable {compare : Comparison}

theorem Blocks.isSome {inResource : Bool} {block other : Option Block}
    (same : compare.Blocks inResource block other) : other.isSome = block.isSome := by
  cases same <;> rfl

/-- Every call may stand for itself, with the same block parameters. -/
structure Reflexive (compare : Comparison) : Prop where
  calls : ∀ inResource call, compare.calls inResource call call
  parameter : compare.parameter = id

mutual

/-- A tree corresponds to itself where every call may stand for itself. -/
theorem Statements.refl (reflexive : compare.Reflexive) : ∀ (statements : List Value)
    (inResource : Bool), compare.Statements inResource statements statements
  | [], _ => .nil
  | .call call :: rest, _ =>
    .call (reflexive.calls _ call) (Blocks.refl reflexive call _) (Statements.refl reflexive rest _)
  | .atom _ :: rest, _ => .other rfl rfl (Statements.refl reflexive rest _)
  | .array _ :: rest, _ => .other rfl rfl (Statements.refl reflexive rest _)
  | .hash _ :: rest, _ => .other rfl rfl (Statements.refl reflexive rest _)
termination_by structural statements => statements

theorem Blocks.refl (reflexive : compare.Reflexive) : ∀ (call : Call) (inResource : Bool),
    compare.Blocks inResource call.block call.block
  | ⟨_, _, _, _, _, none⟩, _ => .absent
  | ⟨_, _, _, _, _, some block⟩, _ => Blocks.some_refl reflexive block _
termination_by structural call => call

theorem Blocks.some_refl (reflexive : compare.Reflexive) : ∀ (block : Block) (inResource : Bool),
    compare.Blocks inResource (some block) (some block)
  | ⟨none, _⟩, _ => .noParameters
  | ⟨some parameters, none⟩, inResource => by
    have kept : compare.Blocks inResource (some ⟨some parameters, none⟩)
        (some ⟨some (parameters.map compare.parameter), none⟩) := .noBody
    rwa [reflexive.parameter, List.map_id] at kept
  | ⟨some parameters, some body⟩, inResource => by
    have kept : compare.Blocks inResource (some ⟨some parameters, some body⟩)
        (some ⟨some (parameters.map compare.parameter), some body⟩) :=
      .given (Statements.refl reflexive body inResource)
    rwa [reflexive.parameter, List.map_id] at kept
termination_by structural block => block

end

/-- What corresponding calls see of the blocks around them. -/
structure Around (compare : Comparison) (scopes : Scopes → Scopes → Prop) (inResource : Bool)
    (around other : Surroundings) : Prop where
  scopes : scopes around.scopes other.scopes
  parameters : other.parameters = around.parameters.map compare.parameter
  grouping : other.grouping = around.grouping
  inResource : inResource → around.grouping.isSome

end Comparison

/-- Plans that correspond: they ask for the same with the controllers moved, and for frames that
correspond. -/
inductive Plan.Corresponds (frames : Frame → Frame → Prop) (move : ControllerId → ControllerId) :
    Except ShapeFault Plan → Except ShapeFault Plan → Prop
  | fault {fault other} : Corresponds frames move (.error fault) (.error other)
  | outcome {outcome} :
      Corresponds frames move (.ok (.outcome outcome)) (.ok (.outcome (outcome.moved move)))
  | resource {kind declaration} :
      Corresponds frames move (.ok (.resource kind declaration))
        (.ok (.resource kind (declaration.moved move)))
  | extension {grouping action} :
      Corresponds frames move (.ok (.extension grouping action)) (.ok (.extension grouping action))
  | frame {frame other} : frames frame other →
      Corresponds frames move (.ok (.frame frame)) (.ok (.frame other))
  | grouping {grouping} :
      Corresponds frames move (.ok (.grouping grouping)) (.ok (.grouping grouping))
  | descend : Corresponds frames move (.ok .descend) (.ok .descend)

/-- Whether a block is entered that is no resource block. -/
def Plan.enters : Plan → Bool
  | .frame _ | .grouping _ | .descend => true
  | _ => false

/-- A call with a resource word enters no other block than that of a resource. -/
theorem Plan.ofWord?_of_enters {around : Surroundings} {call : Call} {plan : Plan}
    (read : ofCall around call = .ok plan) (enters : plan.enters) :
    ResourceKind.ofWord? call.name = none := by
  cases word : ResourceKind.ofWord? call.name with
  | none => rfl
  | some kind =>
    rw [ofCall_resources word] at read
    cases declared : ResourceDeclaration.ofCall around.scopes call with
    | error fault =>
      rw [declared] at read
      cases read
    | ok declaration =>
      rw [declared] at read
      obtain rfl := Except.ok.inj read
      dsimp only at enters
      split at enters <;> cases enters

/-! ## Part 4 — simulation -/

/-- **What a comparison has to keep.** In surroundings that correspond, corresponding calls stand on
the same line and have corresponding plans; frames that correspond may be put around both. -/
structure Simulation (compare : Comparison) where
  scopes : Scopes → Scopes → Prop
  frames : Frame → Frame → Prop
  move : ControllerId → ControllerId
  enter : ∀ {outer other frame twin}, scopes outer other → frames frame twin →
    scopes (frame :: outer) (twin :: other)
  line : ∀ {inResource call twin}, compare.calls inResource call twin → twin.line = call.line
  plan : ∀ {inResource around other call twin}, compare.Around scopes inResource around other →
    compare.calls inResource call twin → twin.hasBlock = call.hasBlock →
    Plan.Corresponds frames move (Plan.ofCall around call) (Plan.ofCall other twin)

/-- Equal plans correspond where nothing is moved and every frame corresponds to itself. -/
theorem Plan.Corresponds.of_eq {frames : Frame → Frame → Prop}
    (reflexive : ∀ frame, frames frame frame) {plan other : Except ShapeFault Plan}
    (equal : other = plan) : Corresponds frames id plan other := by
  rw [equal]
  cases plan with
  | error fault => exact .fault
  | ok plan =>
    cases plan with
    | outcome outcome => cases outcome <;> exact .outcome
    | resource kind declaration =>
      have still : declaration.moved id = declaration := by simp [ResourceDeclaration.moved]
      have moved : Corresponds frames id (.ok (.resource kind declaration))
          (.ok (.resource kind (declaration.moved id))) := .resource
      rwa [still] at moved
    | extension => exact .extension
    | frame => exact .frame (reflexive _)
    | grouping => exact .grouping
    | descend => exact .descend

namespace Simulation

/-- A comparison that keeps every plan as it is. -/
def ofPlans {compare : Comparison}
    (line : ∀ {inResource call twin}, compare.calls inResource call twin → twin.line = call.line)
    (plan : ∀ {inResource around other call twin}, compare.Around Eq inResource around other →
      compare.calls inResource call twin → twin.hasBlock = call.hasBlock →
      Plan.ofCall other twin = Plan.ofCall around call) : Simulation compare where
  scopes := Eq
  frames := Eq
  move := id
  enter outer frame := by rw [outer, frame]
  line := line
  plan same calls blocks := .of_eq (fun _ => rfl) (plan same calls blocks)

variable {compare : Comparison} (simulation : Simulation compare)

/-- Surroundings that correspond. -/
abbrev Around (inResource : Bool) (around other : Surroundings) : Prop :=
  compare.Around simulation.scopes inResource around other

/-- What corresponding blocks contribute. -/
def SameBodies (inResource : Bool) (body other : Option (Surroundings → Option Contribution)) :
    Prop :=
  Option.Rel (fun body other => ∀ around twin, simulation.Around inResource around twin →
    other twin = (body around).map (·.moved simulation.move)) body other

variable {simulation}

theorem SameBodies.inside {inResource : Bool}
    {body other : Option (Surroundings → Option Contribution)}
    (bodies : simulation.SameBodies inResource body other) {around twin : Surroundings}
    (same : simulation.Around inResource around twin) :
    Contribution.inside other twin = (Contribution.inside body around).moved simulation.move := by
  cases bodies with
  | none => rfl
  | @some body other bodies =>
    show (other twin).getD {} = ((body around).getD {}).moved _
    rw [bodies around twin same]
    cases body around <;> rfl

/-- **One step: corresponding calls contribute the same, moved, if their blocks do.** -/
theorem ofCall_eq {inResource : Bool} {around other : Surroundings}
    (same : simulation.Around inResource around other) {call twin : Call}
    (calls : compare.calls inResource call twin) (blocks : twin.hasBlock = call.hasBlock)
    (bodies : simulation.SameBodies (inResource || (ResourceKind.ofWord? call.name).isSome)
      (Contribution.bodyOf call) (Contribution.bodyOf twin)) :
    Contribution.ofCall other twin = (Contribution.ofCall around call).moved simulation.move := by
  rw [Contribution.ofCall_planned, Contribution.ofCall_planned, simulation.line calls]
  have plans := simulation.plan same calls blocks
  -- the flag is raised by a resource word, and such a call enters no frame and no grouping: where
  -- the surroundings stay, it was raised before
  have within {plan : Plan} (read : Plan.ofCall around call = .ok plan) (enters : plan.enters)
      (word : inResource || (ResourceKind.ofWord? call.name).isSome) :
      around.grouping.isSome := by
    rw [Plan.ofWord?_of_enters read enters, Option.isSome_none, Bool.or_false] at word
    exact same.inResource word
  generalize planned : Plan.ofCall around call = plan at *
  generalize Plan.ofCall other twin = answer at *
  cases plans with
  | fault => rfl
  | outcome => exact (Contribution.moved_ofOutcome _ _ _).symm
  | extension => exact (Contribution.moved_ofName _ _ _).symm
  | @resource kind declaration =>
    have opened : simulation.Around (inResource || (ResourceKind.ofWord? call.name).isSome)
        { around with grouping := some .member } { other with grouping := some .member } :=
      ⟨same.scopes, same.parameters, rfl, fun _ => rfl⟩
    dsimp only [Contribution.ofPlan]
    generalize Contribution.bodyOf call = body at *
    generalize Contribution.bodyOf twin = other at *
    cases bodies with
    | none => exact (Contribution.moved_ofEndpoints _ _ _ _).symm
    | some bodies => rw [Contribution.moved_ofResource, ← bodies _ _ opened]
  | @frame frame entered frames =>
    exact bodies.inside ⟨simulation.enter same.scopes frames, same.parameters, same.grouping,
      within rfl rfl⟩
  | grouping => exact bodies.inside ⟨same.scopes, same.parameters, rfl, fun _ => rfl⟩
  | descend =>
    exact bodies.inside ⟨same.scopes, same.parameters, same.grouping, within rfl rfl⟩

-- The induction is on the first tree; the correspondence says what stands at the same place in the
-- other, so it needs no measure of its own.
mutual

/-- **Corresponding statements contribute the same, moved.** -/
theorem ofStatements_eq : ∀ (statements : List Value) {inResource : Bool} {others : List Value}
    {around twin : Surroundings}, simulation.Around inResource around twin →
    compare.Statements inResource statements others →
    Contribution.ofStatements twin others =
      (Contribution.ofStatements around statements).moved simulation.move
  | [], _, _, _, _, _, .nil => rfl
  | .call call :: rest, _, _, _, _, same, .call calls blocks others => by
    rw [Contribution.ofStatements, Contribution.ofStatements, Contribution.moved_append,
      ofStatements_eq rest same others,
      ofCall_eq same calls blocks.isSome (sameBodies call blocks)]
  | .atom _ :: rest, _, _, _, _, same, .other _ quiet others => by
    rw [Contribution.ofStatements_other quiet, ofStatements_eq rest same others]
    rfl
  | .array _ :: rest, _, _, _, _, same, .other _ quiet others => by
    rw [Contribution.ofStatements_other quiet, ofStatements_eq rest same others]
    rfl
  | .hash _ :: rest, _, _, _, _, same, .other _ quiet others => by
    rw [Contribution.ofStatements_other quiet, ofStatements_eq rest same others]
    rfl
termination_by structural statements => statements

/-- The blocks of corresponding calls contribute the same, moved. -/
theorem sameBodies : ∀ (call : Call) {inResource : Bool} {twin : Call},
    compare.Blocks inResource call.block twin.block →
    simulation.SameBodies inResource (Contribution.bodyOf call) (Contribution.bodyOf twin)
  | ⟨_, _, _, _, _, none⟩, _, ⟨_, _, _, _, _, none⟩, _ => .none
  | ⟨_, _, _, _, _, some block⟩, _, ⟨_, _, _, _, _, some _⟩, blocks =>
    .some fun _ _ same => ofBlock_eq block same blocks
termination_by structural call => call

/-- Corresponding blocks contribute the same, moved. -/
theorem ofBlock_eq : ∀ (block : Block) {inResource : Bool} {other : Block}
    {around twin : Surroundings}, simulation.Around inResource around twin →
    compare.Blocks inResource (some block) (some other) →
    Contribution.ofBlock twin other =
      (Contribution.ofBlock around block).map (·.moved simulation.move)
  | ⟨none, _⟩, _, _, _, _, _, .noParameters => rfl
  | ⟨some _, none⟩, _, _, _, _, _, .noBody => rfl
  | ⟨some parameters, some body⟩, _, _, around, twin, same, .given statements => by
    have within : simulation.Around _
        { around with parameters := parameters ++ around.parameters }
        { twin with
          parameters := parameters.map compare.parameter ++ twin.parameters } :=
      ⟨same.scopes, by rw [same.parameters, List.map_append], same.grouping, same.inResource⟩
    rw [Contribution.ofBlock, Contribution.ofBlock, ofStatements_eq body within statements]
    rfl
termination_by structural block => block

end

section Still

/-- **A walk that moves nothing ends alike.** From states that differ only in the names of block
parameters, walking through corresponding statements lists the same routes and gives the innermost
open resource the same names. -/
theorem walk_same (still : simulation.move = id) {inResource : Bool}
    {statements others : List Value} (same : compare.Statements inResource statements others)
    {state : Recognizer} (scopes : simulation.scopes state.scopes state.scopes)
    (inside : inResource → state.surroundings.grouping.isSome) :
    let twin : Recognizer :=
      { state with parameters := state.parameters.map compare.parameter }
    (Recognizer.walk others twin).registry = (Recognizer.walk statements state).registry ∧
      (Recognizer.walk others twin).resources = (Recognizer.walk statements state).resources := by
  intro twin
  have around : simulation.Around inResource state.surroundings twin.surroundings :=
    ⟨scopes, rfl, rfl, inside⟩
  have contributed := ofStatements_eq statements around same
  rw [still, Contribution.moved_id] at contributed
  exact Recognizer.walk_congr rfl rfl rfl contributed

/-- Corresponding files declare the same routes. -/
theorem process_same (still : simulation.move = id) {statements others : List Value}
    (same : compare.Statements false statements others) (outermost : simulation.scopes [] [])
    (file : Option String) (state : Recognizer) :
    (Recognizer.process file others state).1 = (Recognizer.process file statements state).1 := by
  have around : simulation.Around false .outermost .outermost := ⟨outermost, rfl, rfl, nofun⟩
  have contributed := ofStatements_eq statements around same
  rw [still, Contribution.moved_id] at contributed
  rw [Recognizer.process_routes, Recognizer.process_routes, Recognizer.routesOf,
    Recognizer.routesOf, contributed]

end Still

end Simulation

end RouteTable
