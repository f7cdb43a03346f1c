/-
**What a call asks for.**

A call is classified by its name, by whether it has a block and by its surroundings: the frames
and block parameters around it and the resource block it stands in. The first rule that fits
decides.

* `Plan.ofCall_resources`: a resource word decides before anything else.
-/

import RouteTable.DirectRoute
import RouteTable.Resource

namespace RouteTable

/-- What a call can see of the blocks around it. -/
structure Surroundings where
  scopes : Scopes
  parameters : List String
  grouping : Option Grouping

/-- What a call asks for. -/
inductive Plan
  | outcome (outcome : Outcome)
  | resource (kind : ResourceKind) (declaration : ResourceDeclaration)
  | extension (grouping : Grouping) (action : String)
  | frame (frame : Frame)
  | grouping (grouping : Grouping)
  | descend

namespace Call

/-- Whether the call has a block. -/
def hasBlock (call : Call) : Bool := call.block.isSome

/-- The verbs of the present dialect. -/
def verbs : List String := ["get", "post", "put", "patch", "delete", "match"]

/-- The verb of the older dialect. -/
def legacyVerb : String := "connect"

/-- Whether the call is `map.login "/login", …`: any other method on a block parameter. -/
def isNamedRoute (call : Call) (parameters : List String) : Bool :=
  match call.receiver, call.firstArgument? with
  | some (.atom (.identifier name)), some (.atom (.text _)) => parameters.contains name
  | some (.atom (.identifier name)), some (.atom (.interpolated _)) => parameters.contains name
  | _, _ => false

/-- The frame that the block of the call puts around its calls. -/
def frame? (call : Call) : Except ShapeFault (Option Frame) :=
  if call.name = "scope" then do
    let options ← call.keywordOptions
    return some (.scoped (optionValue options "module").literal? (optionValue options "controller"))
  else if call.name = "controller" then
    return some (.scoped none (call.firstArgument?.getD .nothing))
  else if call.name = "with_options" then do
    return some (.withOptions (← call.keywordOptions))
  else if call.name = "namespace" then
    return (call.firstLiteral?.filter (· ≠ "")).map .namespaced
  else return none

/-- Whether the block of the call may put a frame around its calls. -/
def namesFrame (call : Call) : Bool :=
  ["namespace", "scope", "controller", "with_options"].contains call.name

end Call

namespace Plan

/-- A call that gives no route. -/
def skip (reason : SkipReason) : Plan := .outcome (.skipped reason)

/-- What a verb call asks for. -/
def ofVerb (around : Surroundings) (call : Call) : Except ShapeFault Plan := do
  let direct : Except ShapeFault Plan :=
    Plan.outcome <$> directRoute around.scopes (call.name = Call.legacyVerb) call
  match around.grouping with
  | none => direct
  | some enclosing =>
    match ← extensionAction? call with
    | none => direct
    | some action =>
      let on := optionValue (← call.keywordOptions) "on"
      return .extension (Grouping.ofOption on enclosing) action

/-- What a call asks for that is neither a resource nor opens a frame or a grouping. -/
def ofOther (around : Surroundings) (call : Call) : Except ShapeFault Plan :=
  if Call.verbs.contains call.name || call.name = Call.legacyVerb then ofVerb around call
  else if call.name = "root" then .outcome <$> rootRoute around.scopes call
  else if call.name = "concern" then .ok (skip .template)
  else if call.isNamedRoute around.parameters then
    .outcome <$> directRoute around.scopes true call
  else .ok .descend

/-- What a call asks for. -/
def ofCall (around : Surroundings) (call : Call) : Except ShapeFault Plan :=
  match ResourceKind.ofWord? call.name with
  | some kind => do
    let declaration ← ResourceDeclaration.ofCall around.scopes call
    return if declaration.controllers.isEmpty then skip .noResourceName
      else .resource kind declaration
  | none =>
    if call.hasBlock && call.namesFrame then do
      return match ← call.frame? with
        | some opened => .frame opened
        | none => .descend
    else match Grouping.ofWord? call.name with
      | some opened =>
        if call.hasBlock && around.grouping.isSome then .ok (.grouping opened)
        else ofOther around call
      | none => ofOther around call

theorem ofCall_resources {around : Surroundings} {call : Call} {kind : ResourceKind}
    (word : ResourceKind.ofWord? call.name = some kind) :
    ofCall around call = (ResourceDeclaration.ofCall around.scopes call).map fun declaration =>
      if declaration.controllers.isEmpty then skip .noResourceName
      else .resource kind declaration := by
  rw [ofCall, word]
  rfl

end Plan

end RouteTable
