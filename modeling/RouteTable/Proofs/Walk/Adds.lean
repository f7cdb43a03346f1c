/-
**What walking through statements adds to the state.**

The recognizer keeps its frames, its parameters and its open resources in one state that every call
changes. Walking through statements nevertheless changes that state by what the statements
contribute under the surroundings at the start, and by nothing else.

* `Adds`: the later state is the earlier one with a contribution added to the registry and to the
  innermost open resource;
* `walk_adds`, `dispatch_adds`, `walkBlock_ends`: what walking adds is the contribution;
* `walk_appends_contribution`: the registry and the open resources after a walk;
* `walk_congr`: walks that add the same;
* `emitted_eq`: the routes that statements declare from a state.
-/

import RouteTable.Proofs.Walk.Contribution

namespace RouteTable

namespace Contribution

/-- The routes of a contribution as they are listed for a file. -/
def routesIn (added : Contribution) (file : Option String) : List Route :=
  added.routes.map fun declared => { declared.1 with file, line := declared.2 }

/-- An open resource with the names of a contribution. -/
def extend (added : Contribution) (resource : OpenResource) : OpenResource :=
  { resource with
    member := resource.member ++ added.member
    collection := resource.collection ++ added.collection }

/-- Open resources with the names of a contribution, which go to the innermost one. -/
def extendInnermost (added : Contribution) (resources : List OpenResource) : List OpenResource :=
  resources.modifyHead added.extend

variable (first second : Contribution)

theorem routesIn_append (file : Option String) :
    (first ++ second).routesIn file = first.routesIn file ++ second.routesIn file :=
  List.map_append

theorem extend_append (resource : OpenResource) :
    (first ++ second).extend resource = second.extend (first.extend resource) := by
  simp [extend]

theorem extendInnermost_empty (resources : List OpenResource) :
    ({} : Contribution).extendInnermost resources = resources := by
  cases resources <;> simp [extendInnermost, extend]

theorem extendInnermost_append (resources : List OpenResource) :
    (first ++ second).extendInnermost resources =
      second.extendInnermost (first.extendInnermost resources) := by
  cases resources with
  | nil => rfl
  | cons innermost outer => exact congrArg (· :: outer) (extend_append first second innermost)

end Contribution

namespace Recognizer

/-- **The later state is the earlier one with a contribution added.** Only the notices, of which
nothing is said, and the three places that a contribution goes to can differ. -/
structure Adds (added : Contribution) (before after : Recognizer) : Prop where
  scopes : after.scopes = before.scopes
  parameters : after.parameters = before.parameters
  file : after.file = before.file
  resources : after.resources = added.extendInnermost before.resources
  registry : after.registry.toList = before.registry.toList ++ added.routesIn before.file
  routesEmitted : after.routesEmitted = before.routesEmitted + added.routes.length
  filesPrepared : after.filesPrepared = before.filesPrepared

namespace Adds

variable {first second : Contribution} {before between after : Recognizer}

/-- Nothing is added where only the notices differ. -/
theorem notices (state : Recognizer) (notices : Array Notice) :
    Adds {} state { state with notices } where
  scopes := rfl
  parameters := rfl
  file := rfl
  resources := (Contribution.extendInnermost_empty _).symm
  registry := (List.append_nil _).symm
  routesEmitted := rfl
  filesPrepared := rfl

theorem refl (state : Recognizer) : Adds {} state state := notices state state.notices

theorem note (notice : Notice) (state : Recognizer) : Adds {} state (state.note notice) :=
  notices state _

/-- Additions are joined. -/
theorem trans (one : Adds first before between) (two : Adds second between after) :
    Adds (first ++ second) before after where
  scopes := two.scopes.trans one.scopes
  parameters := two.parameters.trans one.parameters
  file := two.file.trans one.file
  resources := by rw [two.resources, one.resources, Contribution.extendInnermost_append]
  registry := by
    rw [two.registry, one.registry, one.file, Contribution.routesIn_append, List.append_assoc]
  routesEmitted := by
    rw [two.routesEmitted, one.routesEmitted, Contribution.routes_append, List.length_append,
      Nat.add_assoc]
  filesPrepared := two.filesPrepared.trans one.filesPrepared

/-- What the next call can see is not changed by an addition. -/
theorem surroundings (one : Adds first before after) :
    after.surroundings = before.surroundings := by
  unfold Recognizer.surroundings
  rw [one.scopes, one.parameters, one.resources]
  cases before.resources <;> rfl

end Adds

/-! ## Single steps -/

theorem emit_adds (line : Int) (state : Recognizer) (endpoint : Endpoint) :
    Adds (.ofEndpoints line [endpoint]) state (emit line state endpoint) where
  scopes := rfl
  parameters := rfl
  file := rfl
  resources := (Contribution.extendInnermost_empty _).symm
  registry := by simp [emit, note, Contribution.ofEndpoints, Contribution.routesIn]
  routesEmitted := rfl
  filesPrepared := rfl

/-- Emitting endpoints one by one adds all of them in order. -/
theorem foldl_emit_adds (line : Int) (endpoints : List Endpoint) (state : Recognizer) :
    Adds (.ofEndpoints line endpoints) state (endpoints.foldl (emit line) state) := by
  induction endpoints generalizing state with
  | nil => exact .refl state
  | cons endpoint rest ih => exact (emit_adds line state endpoint).trans (ih _)

theorem emitAll_adds (controllers : List ControllerId) (actions : List String) (line : Int)
    (state : Recognizer) :
    Adds (.ofEndpoints line (endpoints controllers actions)) state
      (state.emitAll controllers actions line) :=
  foldl_emit_adds line _ state

/-- Changing the innermost resource changes nothing but the open resources. -/
theorem updateResource_eq (change : OpenResource → OpenResource) (state : Recognizer) :
    state.updateResource change =
      { state with resources := state.resources.modifyHead change } := by
  obtain ⟨scopes, parameters, resources, file, registry, notices, emitted, prepared⟩ := state
  cases resources <;> rfl

/-- Names are added by a change of the innermost resource. -/
theorem addExtension_eq (grouping : Grouping) (action : String) (state : Recognizer) :
    state.addExtension grouping action =
      state.updateResource (Contribution.ofName grouping action).extend := by
  unfold addExtension
  congr 1
  funext resource
  cases grouping <;> simp [Contribution.ofName, Contribution.extend]

theorem addExtension_adds (grouping : Grouping) (action : String) (state : Recognizer) :
    Adds (.ofName grouping action) state (state.addExtension grouping action) := by
  have quiet : (Contribution.ofName grouping action).routes = [] := by cases grouping <;> rfl
  rw [addExtension_eq, updateResource_eq]
  exact
    { scopes := rfl
      parameters := rfl
      file := rfl
      resources := rfl
      registry := by rw [Contribution.routesIn, quiet, List.map_nil, List.append_nil]
      routesEmitted := by rw [quiet]; rfl
      filesPrepared := rfl }

theorem conclude_adds (outcome : Outcome) (name : String) (line : Int) (state : Recognizer) :
    Adds (.ofOutcome line (.ok outcome)) state (state.conclude outcome name line) := by
  cases outcome with
  | route endpoint => exact emit_adds line state endpoint
  | skipped reason => exact .note _ state
  | nowhere => exact .refl state

theorem declare_adds (kind : ResourceKind) (declaration : ResourceDeclaration) (line : Int)
    (state : Recognizer) :
    Adds (.ofEndpoints line (endpoints declaration.controllers (kind.allActions declaration.only
      declaration.except declaration.member declaration.collection))) state
      (state.declare kind declaration line) :=
  (Adds.note _ state).trans (emitAll_adds _ _ line _)

/-! ## Blocks -/

section Blocks

variable {added : Contribution} {state after : Recognizer}

/-- Leaving a frame keeps what was added inside it. -/
theorem Adds.leaveFrame {frame : Frame} (inner : Adds added (state.enterFrame frame) after) :
    Adds added state after.leaveFrame where
  scopes := congrArg List.tail inner.scopes
  parameters := inner.parameters
  file := inner.file
  resources := inner.resources
  registry := inner.registry
  routesEmitted := inner.routesEmitted
  filesPrepared := inner.filesPrepared

/-- Leaving a block keeps what was added inside it. -/
theorem Adds.leaveParameters {parameters : List String}
    (inner : Adds added (state.enterParameters parameters) after) :
    Adds added state (after.leaveParameters state.parameters.length) where
  scopes := inner.scopes
  parameters := by
    show after.parameters.drop _ = state.parameters
    rw [inner.parameters, enterParameters, List.length_append, Nat.add_sub_cancel,
      List.drop_left]
  file := inner.file
  resources := inner.resources
  registry := inner.registry
  routesEmitted := inner.routesEmitted
  filesPrepared := inner.filesPrepared

/-- Leaving a member or collection block keeps what was added inside it, and the innermost resource
has its own grouping again. -/
theorem Adds.leaveGrouping {grouping : Grouping}
    (inner : Adds added (state.setGrouping grouping) after) :
    Adds added state (after.setGrouping (state.surroundings.grouping.getD grouping)) := by
  rw [setGrouping, updateResource_eq] at *
  exact
    { scopes := inner.scopes
      parameters := inner.parameters
      file := inner.file
      resources := by
        have restored (resources : List OpenResource) :
            (added.extendInnermost (resources.modifyHead fun resource =>
              { resource with grouping })).modifyHead (fun resource =>
                { resource with
                  grouping := (resources.head?.map OpenResource.grouping).getD grouping }) =
              added.extendInnermost resources := by
          cases resources <;> rfl
        show List.modifyHead _ after.resources = _
        rw [inner.resources]
        exact restored state.resources
      registry := inner.registry
      routesEmitted := inner.routesEmitted
      filesPrepared := inner.filesPrepared }

/-- The innermost resource at the end of a resource block is the one that was opened, with the names
that were added inside. -/
theorem Adds.resources_of_enterResource {opened : OpenResource}
    (inner : Adds added (state.enterResource opened) after) :
    after.resources = added.extend opened :: state.resources := inner.resources

/-- Leaving a resource block keeps the routes that were added inside it; the names go with the
resource. -/
theorem Adds.leaveResource {opened : OpenResource}
    (inner : Adds added (state.enterResource opened) after) :
    Adds { routes := added.routes } state after.leaveResource where
  scopes := inner.scopes
  parameters := inner.parameters
  file := inner.file
  resources := by
    rw [Recognizer.leaveResource, inner.resources_of_enterResource]
    cases state.resources with
    | nil => rfl
    | cons innermost outer => simp [Contribution.extendInnermost, Contribution.extend]
  registry := inner.registry
  routesEmitted := inner.routesEmitted
  filesPrepared := inner.filesPrepared

end Blocks

/-! ## Walking -/

/-- A walk through a block ends as the contribution of the block says: what was contributed is
added, and a block that cannot be gone through ends with a fault and adds nothing. -/
structure Ends (expected : Option Contribution) (before : Recognizer)
    (result : Recognizer × Option ShapeFault) : Prop where
  fault : result.2.isNone = expected.isSome
  adds : Adds (expected.getD {}) before result.1

section Ends

variable {expected : Option Contribution} {state : Recognizer} {walk : Walk}

theorem Ends.withinFrame {frame : Frame}
    (inner : Ends expected (state.enterFrame frame) (walk (state.enterFrame frame))) :
    Ends expected state (withinFrame frame walk state) :=
  ⟨inner.fault, inner.adds.leaveFrame⟩

theorem Ends.withinGrouping {grouping : Grouping}
    (inner : Ends expected (state.setGrouping grouping) (walk (state.setGrouping grouping))) :
    Ends expected state (withinGrouping grouping walk state) :=
  ⟨inner.fault, inner.adds.leaveGrouping⟩

theorem Ends.withinParameters {parameters : List String}
    (inner : Ends expected (state.enterParameters parameters)
      (walk (state.enterParameters parameters))) :
    Ends expected state (withinParameters parameters walk state) :=
  ⟨inner.fault, inner.adds.leaveParameters⟩

/-- The state in which the block of a resource is entered: the standard actions are declared and the
resource is open. -/
def enteringResource (kind : ResourceKind) (declaration : ResourceDeclaration) (line : Int)
    (state : Recognizer) : Recognizer :=
  enterResource ⟨declaration.controllers, declaration.member, declaration.collection, .member⟩
    (state.emitAll declaration.controllers
      (kind.standardActions declaration.only declaration.except) line)

theorem Ends.withinResource_adds {kind : ResourceKind} {declaration : ResourceDeclaration}
    {line : Int} (inner : Ends expected (state.enteringResource kind declaration line)
      (walk (state.enteringResource kind declaration line))) :
    Adds (.ofResource kind declaration line expected) state
      (withinResource kind declaration line walk state).1 := by
  have standard := emitAll_adds declaration.controllers
    (kind.standardActions declaration.only declaration.except) line state
  have left := standard.trans inner.adds.leaveResource
  have closed := inner.adds.resources_of_enterResource
  have fault := inner.fault
  unfold withinResource
  unfold enteringResource at *
  dsimp only
  generalize walk _ = result at *
  obtain ⟨after, ended⟩ := result
  cases expected with
  | none =>
    obtain ⟨reason, rfl⟩ : ∃ reason, ended = some reason :=
      Option.isSome_iff_exists.mp (by simpa using fault)
    exact left
  | some contribution =>
    obtain rfl : ended = none := by simpa using fault
    rw [Contribution.ofResource, ← Contribution.append_assoc]
    dsimp only at closed ⊢
    rw [closed]
    exact left.trans (emitAll_adds _ _ line _)

end Ends

/-- Inside a member or collection block only the grouping differs. -/
theorem setGrouping_surroundings {state : Recognizer} (inside : state.surroundings.grouping.isSome)
    (grouping : Grouping) :
    (state.setGrouping grouping).surroundings =
      { state.surroundings with grouping := some grouping } := by
  rw [setGrouping, updateResource_eq]
  unfold surroundings at *
  cases opened : state.resources with
  | nil => simp [opened] at inside
  | cons innermost outer => rfl

/-- Inside a resource block the frames and parameters are those outside of it. -/
theorem enteringResource_surroundings (kind : ResourceKind) (declaration : ResourceDeclaration)
    (line : Int) (state : Recognizer) :
    (state.enteringResource kind declaration line).surroundings =
      { state.surroundings with grouping := some .member } := by
  have standard := emitAll_adds declaration.controllers
    (kind.standardActions declaration.only declaration.except) line state
  unfold enteringResource enterResource surroundings
  rw [standard.scopes, standard.parameters]
  rfl

/-- A call that is planned as a direct route adds its endpoint, if it leads to one. -/
theorem dispatch_outcome_adds {call : Call} {state : Recognizer}
    {found : Except ShapeFault Outcome}
    (plan : Plan.ofCall state.surroundings call = found.map Plan.outcome) :
    Adds (.ofOutcome call.line found) state (dispatch call state).1 := by
  obtain ⟨name, line, receiver, arguments, options, block⟩ := call
  rw [dispatch.eq_def]
  dsimp only
  rw [plan]
  cases found with
  | error fault => exact .refl state
  | ok outcome => exact conclude_adds outcome name line state

mutual

/-- **Walking through statements adds what they contribute.** -/
theorem walk_adds : ∀ (statements : List Value) (state : Recognizer),
    Adds (.ofStatements state.surroundings statements) state (walk statements state)
  | [], state => .refl state
  | .atom _ :: rest, state => walk_adds rest state
  | .array _ :: rest, state => walk_adds rest state
  | .hash _ :: rest, state => walk_adds rest state
  | .call call :: rest, state => by
    have first := dispatch_adds call state
    rw [walk, Contribution.ofStatements]
    generalize dispatch call state = result at *
    obtain ⟨after, ended⟩ := result
    cases ended with
    | none =>
      have others := walk_adds rest after
      rw [first.surroundings] at others
      exact first.trans others
    | some fault =>
      have reported := first.trans (.note (.abandoned call.name call.line fault) after)
      have others := walk_adds rest (after.note (.abandoned call.name call.line fault))
      rw [Contribution.append_empty] at reported
      rw [reported.surroundings] at others
      exact reported.trans others
termination_by structural statements => statements

/-- **A call adds what it contributes.** -/
theorem dispatch_adds : ∀ (call : Call) (state : Recognizer),
    Adds (.ofCall state.surroundings call) state (dispatch call state).1
  | ⟨name, line, receiver, arguments, options, block⟩, state => by
    have planned := Plan.ofCall_form state.surroundings
      ⟨name, line, receiver, arguments, options, block⟩
    rw [Contribution.ofCall.eq_def]
    dsimp only
    cases form : Call.form ⟨name, line, receiver, arguments, options, block⟩ state.surroundings with
    | resource kind =>
      rw [dispatch.eq_def]
      dsimp only
      rw [planned, form, Plan.ofForm]
      cases ResourceDeclaration.ofCall state.surroundings.scopes
          ⟨name, line, receiver, arguments, options, block⟩ with
      | error fault => exact .refl state
      | ok declaration =>
        dsimp only [Except.map]
        cases declaration.controllers.isEmpty with
        | true => exact .note _ state
        | false =>
          cases block with
          | none => exact declare_adds kind declaration line state
          | some block =>
            have inner := walkBlock_ends block (state.enteringResource kind declaration line)
            rw [enteringResource_surroundings] at inner
            exact inner.withinResource_adds
    | frame =>
      rw [dispatch.eq_def]
      dsimp only
      rw [planned, form, Plan.ofForm]
      cases Call.frame? ⟨name, line, receiver, arguments, options, block⟩ with
      | error fault => exact .refl state
      | ok opened =>
        cases block with
        | none => cases opened <;> exact .refl state
        | some block =>
          cases opened with
          | none => exact (walkBlock_ends block state).adds
          | some frame => exact (walkBlock_ends block (state.enterFrame frame)).withinFrame.adds
    | grouping grouping =>
      rw [dispatch.eq_def]
      dsimp only
      rw [planned, form]
      cases block with
      | none => exact .refl state
      | some block =>
        have inner := walkBlock_ends block (state.setGrouping grouping)
        rw [setGrouping_surroundings (Call.form_grouping form)] at inner
        exact inner.withinGrouping.adds
    | verb =>
      rw [form] at planned
      rw [Contribution.ofVerb]
      rw [Plan.ofForm, Plan.ofVerb_eq] at planned
      cases added : Call.addedName? ⟨name, line, receiver, arguments, options, block⟩
          state.surroundings with
      | some name =>
        rw [added] at planned
        rw [dispatch.eq_def]
        dsimp only
        rw [planned]
        exact addExtension_adds name.1 name.2 state
      | none =>
        rw [added] at planned
        exact dispatch_outcome_adds planned
    | root => exact dispatch_outcome_adds (form ▸ planned)
    | template =>
      rw [dispatch.eq_def]
      dsimp only
      rw [planned, form]
      exact .note _ state
    | named => exact dispatch_outcome_adds (form ▸ planned)
    | unknown =>
      rw [dispatch.eq_def]
      dsimp only
      rw [planned, form]
      cases block with
      | none => exact .refl state
      | some block => exact (walkBlock_ends block state).adds
termination_by structural call => call

/-- **A block ends as its contribution says.** -/
theorem walkBlock_ends : ∀ (block : Block) (state : Recognizer),
    Ends (Contribution.ofBlock state.surroundings block) state (walkBlock block state)
  | ⟨none, _⟩, state => ⟨rfl, .refl state⟩
  | ⟨some parameters, none⟩, state => by
    have inner : Ends none (state.enterParameters parameters)
        (state.enterParameters parameters, some .body) := ⟨rfl, .refl _⟩
    rw [Contribution.ofBlock, walkBlock]
    · exact inner.withinParameters
    · exact nofun
  | ⟨some parameters, some body⟩, state => by
    have inner := walk_adds body (state.enterParameters parameters)
    rw [Contribution.ofBlock, walkBlock]
    exact Ends.withinParameters ⟨rfl, inner⟩
termination_by structural block => block

end

/-- **A walk does what a recursion without state says.** From every state, walking through
statements lists exactly the routes that they contribute under the surroundings of the state, in
order, and gives the innermost open resource exactly the names that they contribute. -/
theorem walk_appends_contribution (statements : List Value) (state : Recognizer) :
    let added := Contribution.ofStatements state.surroundings statements
    (walk statements state).registry.toList = state.registry.toList ++ added.routesIn state.file ∧
      (walk statements state).resources = added.extendInnermost state.resources := by
  have walked := walk_adds statements state
  exact ⟨walked.registry, walked.resources⟩

/-- Statements that contribute the same list the same routes and give the innermost open resource
the same names, from states that have listed the same and have the same resources open. -/
theorem walk_congr {state twin : Recognizer} {statements others : List Value}
    (file : twin.file = state.file) (registry : twin.registry = state.registry)
    (resources : twin.resources = state.resources)
    (same : Contribution.ofStatements twin.surroundings others =
      Contribution.ofStatements state.surroundings statements) :
    (walk others twin).registry = (walk statements state).registry ∧
      (walk others twin).resources = (walk statements state).resources := by
  have walked := walk_adds statements state
  have twinWalked := walk_adds others twin
  rw [same] at twinWalked
  refine ⟨Array.toList_inj.mp ?_, ?_⟩
  · rw [walked.registry, twinWalked.registry, file, registry]
  · rw [walked.resources, twinWalked.resources, resources]

/-- The routes that statements declare from a state. -/
def emitted (statements : List Value) (state : Recognizer) : List Route :=
  (walk statements state).registry.toList.drop state.registry.size

theorem emitted_eq (statements : List Value) (state : Recognizer) :
    emitted statements state =
      (Contribution.ofStatements state.surroundings statements).routesIn state.file := by
  rw [emitted, (walk_adds statements state).registry, ← Array.length_toList, List.drop_left]

/-- The routes of one call are those that it contributes. -/
theorem emitted_call (call : Call) (state : Recognizer) :
    emitted [.call call] state =
      (Contribution.ofCall state.surroundings call).routesIn state.file := by
  rw [emitted_eq, Contribution.ofStatements_single]

end Recognizer

end RouteTable
