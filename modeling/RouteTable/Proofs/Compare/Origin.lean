/-
**Where declared routes come from.**

A route is declared by a resource, with its standard actions or with those that are added to it, or
it is the direct route of a verb, a named route or a root. What statements declare is given here
with the origin of each route. Leaving the origins out gives what the statements contribute.

* `Traced.ofStatements`: declared routes with their origins;
* `Traced.only_ofPlan`: the routes of some origins are those of a plan without the others;
* `Traced.plain_ofStatements`: all routes are those that are contributed;
* `tracedRoutes_routes`: and those that are found in a file.
-/

import RouteTable.Proofs.Compare.Trees

namespace RouteTable

/-! ## Origins -/

/-- Where a route comes from: a resource, by its standard actions or by those that are added to it,
or a verb, a named route or a root that leads there directly. -/
inductive Origin
  | resource
  | direct
deriving DecidableEq, Repr

/-- Declared endpoints with their origins and lines, in order, and the member and collection names
for the innermost resource. -/
structure Traced where
  routes : List (Origin × Endpoint × Int) := []
  member : List String := []
  collection : List String := []

namespace Traced

instance : Append Traced where
  append first second :=
    ⟨first.routes ++ second.routes, first.member ++ second.member,
      first.collection ++ second.collection⟩

/-- Endpoints of one origin that are declared at one line. -/
def ofEndpoints (origin : Origin) (line : Int) (endpoints : List Endpoint) : Traced :=
  { routes := endpoints.map fun endpoint => (origin, endpoint, line) }

/-- One name for the innermost resource. -/
def ofName : Grouping → String → Traced
  | .member, action => { member := [action] }
  | .collection, action => { collection := [action] }

/-- What a direct route declares: its endpoint, if it leads to one. -/
def ofOutcome (line : Int) : Outcome → Traced
  | .route endpoint => ofEndpoints .direct line [endpoint]
  | _ => {}

/-- What a resource declares around its block: the standard actions before it, and the added actions
after it. -/
def ofResource (kind : ResourceKind) (declaration : ResourceDeclaration) (line : Int)
    (inner : Option Traced) : Traced :=
  let declared (actions : List String) : Traced :=
    ofEndpoints .resource line (Recognizer.endpoints declaration.controllers actions)
  declared (kind.standardActions declaration.only declaration.except) ++
    match inner with
    | none => {}
    | some inner =>
      { routes := inner.routes } ++ declared (ResourceKind.extensionActions
        (declaration.member ++ inner.member) (declaration.collection ++ inner.collection))

/-- What is declared inside a block, which may be missing or impossible to go through. -/
def inside (body : Option (Surroundings → Option Traced)) (around : Surroundings) : Traced :=
  ((body.getD fun _ => some {}) around).getD {}

/-- What a planned call declares, where `body` tells what its block declares. -/
def ofPlan (around : Surroundings) (line : Int) (body : Option (Surroundings → Option Traced)) :
    Except ShapeFault Plan → Traced
  | .error _ => {}
  | .ok (.outcome outcome) => ofOutcome line outcome
  | .ok (.extension grouping action) => ofName grouping action
  | .ok (.resource kind declaration) =>
    match body with
    | none => ofEndpoints .resource line (Recognizer.endpoints declaration.controllers
        (kind.allActions declaration.only declaration.except declaration.member
          declaration.collection))
    | some body => ofResource kind declaration line (body { around with grouping := some .member })
  | .ok (.frame frame) => inside body { around with scopes := frame :: around.scopes }
  | .ok (.grouping grouping) => inside body { around with grouping := some grouping }
  | .ok .descend => inside body around

mutual

/-- What statements declare, one after the other. -/
def ofStatements (around : Surroundings) : List Value → Traced
  | [] => {}
  | .call call :: rest => ofCall around call ++ ofStatements around rest
  | .atom _ :: rest => ofStatements around rest
  | .array _ :: rest => ofStatements around rest
  | .hash _ :: rest => ofStatements around rest
termination_by structural statements => statements

/-- What a call declares by its plan. -/
def ofCall (around : Surroundings) : Call → Traced
  | ⟨name, line, receiver, arguments, options, none⟩ =>
    ofPlan around line none (Plan.ofCall around ⟨name, line, receiver, arguments, options, none⟩)
  | ⟨name, line, receiver, arguments, options, some block⟩ =>
    ofPlan around line (some fun inner => ofBlock inner block)
      (Plan.ofCall around ⟨name, line, receiver, arguments, options, some block⟩)
termination_by structural call => call

/-- What the statements of a block declare. -/
def ofBlock (around : Surroundings) : Block → Option Traced
  | ⟨some parameters, some body⟩ =>
    some (ofStatements { around with parameters := parameters ++ around.parameters } body)
  | _ => none
termination_by structural block => block

end

/-- What is not a call declares nothing. -/
theorem ofStatements_other {around : Surroundings} {value : Value} (quiet : value.isCall = false)
    (rest : List Value) : ofStatements around (value :: rest) = ofStatements around rest := by
  cases value with
  | call call => cases quiet
  | atom | array | hash => rfl

/-- What the block of a call declares. -/
def bodyOf (call : Call) : Option (Surroundings → Option Traced) :=
  call.block.map fun block inner => ofBlock inner block

/-- A call declares what its plan says. -/
theorem ofCall_planned (around : Surroundings) (call : Call) :
    ofCall around call = ofPlan around call.line (bodyOf call) (Plan.ofCall around call) := by
  obtain ⟨name, line, receiver, arguments, options, block⟩ := call
  cases block <;> rfl

end Traced

/-! ## Routes of some origins -/

/-- A plan of which the direct route is kept, or else leads nowhere. -/
def Plan.only (direct : Bool) : Except ShapeFault Plan → Except ShapeFault Plan
  | .ok (.outcome found) => .ok (.outcome (if direct then found else .nowhere))
  | plan => plan

/-- Nothing is left out of a plan if direct routes are kept. -/
theorem Plan.only_true (plan : Except ShapeFault Plan) : only true plan = plan := by
  cases plan with
  | error fault => rfl
  | ok plan => cases plan <;> rfl

namespace Traced

/-- The contribution of the routes of some origins, and of all names. -/
def only (wanted : Origin → Bool) (declared : Traced) : Contribution where
  routes := (declared.routes.filter fun route => wanted route.1).map Prod.snd
  member := declared.member
  collection := declared.collection

section Only

variable (wanted : Origin → Bool)

theorem only_append (first second : Traced) :
    (first ++ second).only wanted = first.only wanted ++ second.only wanted := by
  show (⟨((first.routes ++ second.routes).filter _).map _, _, _⟩ : Contribution) = _
  rw [List.filter_append, List.map_append]
  rfl

theorem only_ofName (grouping : Grouping) (action : String) :
    (ofName grouping action).only wanted = .ofName grouping action := by
  cases grouping <;> rfl

/-- Endpoints of one origin are all wanted, or none of them is. -/
theorem only_ofEndpoints (origin : Origin) (line : Int) (endpoints : List Endpoint) :
    (ofEndpoints origin line endpoints).only wanted =
      if wanted origin then .ofEndpoints line endpoints else {} := by
  unfold only ofEndpoints Contribution.ofEndpoints
  dsimp only
  cases chosen : wanted origin with
  | true =>
    rw [List.filter_eq_self.mpr (by simp [chosen]), List.map_map]
    rfl
  | false =>
    rw [List.filter_eq_nil_iff.mpr (by simp [chosen])]
    rfl

/-- What a block declares, or an unreadable one. -/
theorem only_inside (body : Option (Surroundings → Option Traced)) (around : Surroundings) :
    (inside body around).only wanted =
      Contribution.inside (body.map fun body inner => (body inner).map (·.only wanted)) around := by
  cases body with
  | none => rfl
  | some body =>
    show ((body around).getD {}).only wanted = ((body around).map _).getD {}
    cases body around <;> rfl

variable (resources : wanted .resource)
include resources

/-- A resource with the routes of resources and perhaps others. -/
theorem only_ofResource (kind : ResourceKind) (declaration : ResourceDeclaration) (line : Int)
    (inner : Option Traced) :
    (ofResource kind declaration line inner).only wanted =
      .ofResource kind declaration line (inner.map (·.only wanted)) := by
  unfold ofResource Contribution.ofResource
  rw [only_append, only_ofEndpoints, if_pos resources]
  cases inner with
  | none => rfl
  | some inner =>
    dsimp only [Option.map_some]
    rw [only_append, only_ofEndpoints, if_pos resources]
    rfl

/-- **What is declared by a plan, of the wanted origins**: a direct route counts as one that leads
nowhere unless it is wanted. -/
theorem only_ofPlan (around : Surroundings) (line : Int)
    (body : Option (Surroundings → Option Traced)) (plan : Except ShapeFault Plan) :
    (ofPlan around line body plan).only wanted =
      Contribution.ofPlan around line
        (body.map fun body inner => (body inner).map (·.only wanted))
        (Plan.only (wanted .direct) plan) := by
  cases plan with
  | error fault => rfl
  | ok plan =>
    cases plan with
    | outcome outcome =>
      cases outcome with
      | route endpoint =>
        refine (only_ofEndpoints wanted .direct line [endpoint]).trans ?_
        show _ = Contribution.ofOutcome line (.ok (if wanted .direct then _ else _))
        split <;> rfl
      | skipped | nowhere =>
        show {} = Contribution.ofOutcome line (.ok (if wanted .direct then _ else _))
        split <;> rfl
    | extension grouping action => exact only_ofName wanted grouping action
    | resource kind declaration =>
      cases body with
      | none => exact (only_ofEndpoints wanted .resource line _).trans (if_pos resources)
      | some body => exact only_ofResource wanted resources kind declaration line _
    | frame frame => exact only_inside wanted body _
    | grouping grouping => exact only_inside wanted body _
    | descend => exact only_inside wanted body _

end Only

/-- The contribution of all routes. -/
def plain (declared : Traced) : Contribution := declared.only fun _ => true

mutual

/-- **Without their origins, declared routes are what is contributed.** -/
theorem plain_ofStatements : ∀ (statements : List Value) (around : Surroundings),
    (ofStatements around statements).plain = Contribution.ofStatements around statements
  | [], _ => rfl
  | .call call :: rest, around => by
    rw [ofStatements, Contribution.ofStatements, plain, only_append, ← plain, ← plain,
      plain_ofCall call around, plain_ofStatements rest around]
  | .atom _ :: rest, around => plain_ofStatements rest around
  | .array _ :: rest, around => plain_ofStatements rest around
  | .hash _ :: rest, around => plain_ofStatements rest around
termination_by structural statements => statements

theorem plain_ofCall : ∀ (call : Call) (around : Surroundings),
    (ofCall around call).plain = Contribution.ofCall around call
  | ⟨name, line, receiver, arguments, options, none⟩, around => by
    rw [ofCall_planned, Contribution.ofCall_planned, plain, only_ofPlan _ rfl, Plan.only_true]
    rfl
  | ⟨name, line, receiver, arguments, options, some block⟩, around => by
    have body : (fun inner => (ofBlock inner block).map plain) =
        fun inner => Contribution.ofBlock inner block := funext (plain_ofBlock block)
    rw [ofCall_planned, Contribution.ofCall_planned, plain, only_ofPlan _ rfl, Plan.only_true]
    exact congrArg (Contribution.ofPlan around line · _) (congrArg some body)
termination_by structural call => call

theorem plain_ofBlock : ∀ (block : Block) (around : Surroundings),
    (ofBlock around block).map plain = Contribution.ofBlock around block
  | ⟨none, _⟩, _ => rfl
  | ⟨some _, none⟩, _ => rfl
  | ⟨some _, some body⟩, _ => congrArg some (plain_ofStatements body _)
termination_by structural block => block

end

/-- The contribution of the routes of resources, with all names. -/
def ofResources (declared : Traced) : Contribution :=
  declared.only fun origin => origin = .resource

end Traced

namespace Recognizer

/-- The routes that a file declares, each with its origin. -/
def tracedRoutes (file : RoutingFile) : List (Origin × Route) :=
  (Traced.ofStatements .outermost file.statements).routes.map fun declared =>
    (declared.1, { declared.2.1 with file := file.name, line := declared.2.2 })

/-- The routes that a file declares by its resources. -/
def resourceRoutes (file : RoutingFile) : List Route :=
  ((tracedRoutes file).filter fun traced => traced.1 = .resource).map Prod.snd

/-- The routes with origins are those that are found in the file. -/
theorem tracedRoutes_routes (file : RoutingFile) :
    (tracedRoutes file).map Prod.snd = routesOf file := by
  have routes := congrArg Contribution.routes
    (Traced.plain_ofStatements file.statements .outermost)
  rw [routesOf, Contribution.routesIn, ← routes, tracedRoutes, Traced.plain, Traced.only,
    List.filter_eq_self.mpr fun _ _ => rfl, List.map_map, List.map_map]
  rfl

/-- The routes of resources as they are contributed. -/
theorem resourceRoutes_eq (file : RoutingFile) : resourceRoutes file =
    (Traced.ofStatements .outermost file.statements).ofResources.routesIn file.name := by
  rw [resourceRoutes, tracedRoutes, List.filter_map, List.map_map, Traced.ofResources, Traced.only,
    Contribution.routesIn, List.map_map]
  rfl

end Recognizer

end RouteTable
