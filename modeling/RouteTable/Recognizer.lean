/-
**The recognizer.**

The recognizer goes through the calls of a file in order and adds the routes they declare to the
registry. It keeps the frames, the parameters of the blocks around a call and the open resources;
a block adds to them when it is entered and takes away what it added when it is left, also when a
call inside is given up.

* `emitAll_registry`, `note_registry`: what reporting and emitting do to the registry.
-/

import RouteTable.Plan

namespace RouteTable

/-- A resource whose block is open, with the actions added so far. -/
structure OpenResource where
  controllers : List ControllerId
  member : List String
  collection : List String
  grouping : Grouping
deriving DecidableEq, Repr

/-- The state of the recognizer; the innermost frame, parameter and resource come first. -/
structure Recognizer where
  scopes : Scopes := []
  parameters : List String := []
  resources : List OpenResource := []
  file : Option String := none
  registry : Registry := #[]
  notices : Array Notice := #[]
  routesEmitted : Nat := 0
  filesPrepared : Nat := 0

namespace Recognizer

/-- What the next call can see. -/
def surroundings (state : Recognizer) : Surroundings :=
  ⟨state.scopes, state.parameters, state.resources.head?.map OpenResource.grouping⟩

/-! ## Steps -/

/-- Reports a notice. -/
def note (notice : Notice) (state : Recognizer) : Recognizer :=
  { state with notices := state.notices.push notice }

/-- Adds a route that is declared at a line. -/
def emit (line : Int) (state : Recognizer) (endpoint : Endpoint) : Recognizer :=
  let route : Route := { endpoint with file := state.file, line }
  note (.routeFound route)
    { state with
      registry := state.registry.push route
      routesEmitted := state.routesEmitted + 1 }

/-- The endpoints of each controller with each action, controller by controller. -/
def endpoints (controllers : List ControllerId) (actions : List String) : List Endpoint :=
  controllers.flatMap fun controller => actions.map fun action => ⟨controller, action⟩

/-- Adds a route for each controller with each action. -/
def emitAll (controllers : List ControllerId) (actions : List String) (line : Int)
    (state : Recognizer) : Recognizer :=
  (endpoints controllers actions).foldl (emit line) state

/-- Enters a frame. -/
def enterFrame (frame : Frame) (state : Recognizer) : Recognizer :=
  { state with scopes := frame :: state.scopes }

/-- Leaves the innermost frame. -/
def leaveFrame (state : Recognizer) : Recognizer := { state with scopes := state.scopes.tail }

/-- Enters a block with parameters. -/
def enterParameters (parameters : List String) (state : Recognizer) : Recognizer :=
  { state with parameters := parameters ++ state.parameters }

/-- Leaves the block of the innermost parameters, so that `depth` of them remain. -/
def leaveParameters (depth : Nat) (state : Recognizer) : Recognizer :=
  { state with parameters := state.parameters.drop (state.parameters.length - depth) }

/-- Opens a resource. -/
def enterResource (resource : OpenResource) (state : Recognizer) : Recognizer :=
  { state with resources := resource :: state.resources }

/-- Closes the innermost resource. -/
def leaveResource (state : Recognizer) : Recognizer :=
  { state with resources := state.resources.tail }

/-- Changes the innermost resource. -/
def updateResource (change : OpenResource → OpenResource) (state : Recognizer) : Recognizer :=
  match state.resources with
  | [] => state
  | resource :: outer => { state with resources := change resource :: outer }

/-- Sets the grouping of the innermost resource. -/
def setGrouping (grouping : Grouping) (state : Recognizer) : Recognizer :=
  state.updateResource fun resource => { resource with grouping }

/-- Adds an action to the innermost resource. -/
def addExtension (grouping : Grouping) (action : String) (state : Recognizer) : Recognizer :=
  state.updateResource fun resource =>
    match grouping with
    | .member => { resource with member := resource.member ++ [action] }
    | .collection => { resource with collection := resource.collection ++ [action] }

/-- Carries out the outcome of a direct route. -/
def conclude (outcome : Outcome) (name : String) (line : Int) (state : Recognizer) : Recognizer :=
  match outcome with
  | .route endpoint => state.emit line endpoint
  | .skipped reason => state.note (.skipped reason name line)
  | .nowhere => state

/-- Declares a resource without a block. -/
def declare (kind : ResourceKind) (declaration : ResourceDeclaration) (line : Int)
    (state : Recognizer) : Recognizer :=
  let actions := kind.allActions declaration.only declaration.except declaration.member
    declaration.collection
  emitAll declaration.controllers actions line (state.note (.actionsListed kind actions))

/-- Declares the actions that were added to the innermost resource. -/
def declareExtensions (line : Int) (resource : OpenResource) (state : Recognizer) : Recognizer :=
  state.emitAll resource.controllers
    (ResourceKind.extensionActions resource.member resource.collection) line

theorem note_registry (notice : Notice) (state : Recognizer) :
    (state.note notice).registry = state.registry := rfl

theorem emitAll_registry (controllers : List ControllerId) (actions : List String) (line : Int)
    (state : Recognizer) :
    (state.emitAll controllers actions line).registry.toList = state.registry.toList ++
      (endpoints controllers actions).map fun endpoint =>
        { endpoint with file := state.file, line } := by
  have general (found : List Endpoint) (state : Recognizer) :
      (found.foldl (emit line) state).registry.toList = state.registry.toList ++
        found.map fun endpoint => { endpoint with file := state.file, line } := by
    induction found generalizing state with
    | nil => simp
    | cons endpoint rest ih =>
      rw [List.foldl_cons, ih]
      simp [emit, note]
  exact general _ state

/-! ## Walking -/

/-- A walk changes the state and may end with a part of a call that could not be read. -/
abbrev Walk : Type := Recognizer → Recognizer × Option ShapeFault

/-- A walk between entering and leaving a block; the block is left also when the walk fails. -/
def within (enter leave : Recognizer → Recognizer) (walk : Walk) : Walk := fun state =>
  let (after, fault) := walk (enter state)
  (leave after, fault)

/-- A walk inside a frame. -/
def withinFrame (frame : Frame) (walk : Walk) : Walk :=
  within (enterFrame frame) leaveFrame walk

/-- A walk inside a member or collection block. -/
def withinGrouping (grouping : Grouping) (walk : Walk) : Walk := fun state =>
  let previous := (state.surroundings.grouping).getD grouping
  within (setGrouping grouping) (setGrouping previous) walk state

/-- A walk inside a block with parameters. -/
def withinParameters (parameters : List String) (walk : Walk) : Walk := fun state =>
  within (enterParameters parameters) (leaveParameters state.parameters.length) walk state

/-- A walk inside a resource block: the standard actions are declared before it, and the added
actions after it, unless it fails. -/
def withinResource (kind : ResourceKind) (declaration : ResourceDeclaration) (line : Int)
    (walk : Walk) : Walk := fun state =>
  let actions := kind.standardActions declaration.only declaration.except
  let opened : OpenResource :=
    ⟨declaration.controllers, declaration.member, declaration.collection, .member⟩
  let (after, fault) := walk
    (enterResource opened (state.emitAll declaration.controllers actions line))
  match fault, after.resources with
  | none, closed :: _ => (declareExtensions line closed after.leaveResource, none)
  | _, _ => (after.leaveResource, fault)

mutual

/-- Goes through statements in order; what is not a call is passed over, and a call that fails is
given up. -/
def walk : List Value → Recognizer → Recognizer
  | [], state => state
  | .call call :: rest, state =>
    let name := call.name
    let line := call.line
    let (after, fault) := dispatch call state
    walk rest <| match fault with
      | none => after
      | some fault => after.note (.abandoned name line fault)
  | .atom _ :: rest, state => walk rest state
  | .array _ :: rest, state => walk rest state
  | .hash _ :: rest, state => walk rest state
termination_by structural statements => statements

/-- Carries out what one call asks for. -/
def dispatch : Call → Walk
  | ⟨name, line, receiver, arguments, options, block⟩, state =>
    match Plan.ofCall state.surroundings ⟨name, line, receiver, arguments, options, block⟩ with
    | .error fault => (state, some fault)
    | .ok (.outcome outcome) => (state.conclude outcome name line, none)
    | .ok (.extension grouping action) => (state.addExtension grouping action, none)
    | .ok (.resource kind declaration) =>
      match block with
      | none => (state.declare kind declaration line, none)
      | some block => withinResource kind declaration line (walkBlock block) state
    | .ok (.frame frame) =>
      match block with
      | none => (state, none)
      | some block => withinFrame frame (walkBlock block) state
    | .ok (.grouping grouping) =>
      match block with
      | none => (state, none)
      | some block => withinGrouping grouping (walkBlock block) state
    | .ok .descend =>
      match block with
      | none => (state, none)
      | some block => walkBlock block state
termination_by structural call => call

/-- Goes through the statements of a block. -/
def walkBlock : Block → Walk
  | ⟨none, _⟩, state => (state, some .parameters)
  | ⟨some parameters, none⟩, state =>
    withinParameters parameters (fun inner => (inner, some .body)) state
  | ⟨some parameters, some body⟩, state =>
    withinParameters parameters (fun inner => (walk body inner, none)) state
termination_by structural block => block

end

/-! ## Files -/

/-- The state at the start of a file: nothing is open. -/
def startFile (file : Option String) (state : Recognizer) : Recognizer :=
  { state with scopes := [], parameters := [], resources := [], file }

/-- Goes through the statements of one file and gives the routes they declare. -/
def process (file : Option String) (statements : List Value) (state : Recognizer) :
    List Route × Recognizer :=
  let after := walk statements (state.startFile file)
  let found := after.registry.toList.drop state.registry.size
  (found, note (.fileRead found.length file)
    { after with filesPrepared := after.filesPrepared + 1 })

end Recognizer

end RouteTable
