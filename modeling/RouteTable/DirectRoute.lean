/-
**Direct routes.**

A verb call (`get "/login" => "sessions#new"`), a named route (`map.login "/login", …`) and `root`
name one endpoint each. What such a call leads to depends on the call and on the frames around it,
and on nothing else.

* `directRoute_options`, `rootRoute_options`: a call whose options cannot be read leads to nothing
  but a fault.
-/

import RouteTable.Notice
import RouteTable.RoutePath
import RouteTable.Scope

namespace RouteTable

/-- What a call leads to. -/
inductive Outcome
  | route (endpoint : Endpoint)
  | skipped (reason : SkipReason)
  | nowhere
deriving DecidableEq, Repr

/-- What the target of a route says. -/
inductive Target
  | unnamed
  | bare (action : String)
  | full (controller action : String)
  | skipped (reason : SkipReason)
deriving DecidableEq, Repr

/-- Reads a target: a symbol or a text names an action, a text with `#` a controller too. -/
def Target.ofValue : Value → Target
  | .nothing => .unnamed
  | .symbol name => .bare name
  | .text content =>
    if '#' ∈ content.toList then
      match RoutePath.splitTarget? content with
      | some (controller, action) => .full controller action
      | none => .skipped (.malformedMapping content)
    else .bare content
  | value => .skipped (if value.isRedirect then .redirect else .foreignTarget)

/-- The outcome for an endpoint, of which the controller is named by a text. -/
def Outcome.ofNames (scopes : Scopes) (options : Assoc String Value) (controller action : String) :
    Outcome :=
  match scopes.controllerOf? controller (optionValue options "module").literal? with
  | some found => .route ⟨found, action⟩
  | none => .nowhere

/-- The outcome for what is known of the controller and the action after the target is read. -/
def Outcome.ofParts (scopes : Scopes) (options : Assoc String Value) (path : String)
    (legacy : Bool) (controller action : Option String) : Outcome :=
  let suggested := if controller.isNone && action.isNone then RoutePath.splitPath? path else none
  let controller := controller.or (suggested.map Prod.fst)
  let action := action.or (suggested.map Prod.snd)
  match controller.filter (· ≠ "") with
  | none => .skipped .noController
  | some controller =>
    match (action.or (RoutePath.defaultAction? path legacy)).filter (· ≠ "") with
    | none => .skipped .noAction
    | some action => Outcome.ofNames scopes options controller action

/-- What a verb call or a named route leads to; `legacy` calls have the default action `index`. -/
def directRoute (scopes : Scopes) (legacy : Bool) (call : Call) : Except ShapeFault Outcome := do
  let own ← call.keywordOptions
  let mapping ← call.mapping?
  let options := scopes.defaults.merge own
  let path := (match mapping with
    | some (key, _) => key.literal?
    | none => call.firstLiteral?).getD ""
  let target := match mapping with
    | some (_, value) => value
    | none => optionValue options "to"
  if !target.isGiven && !own.contains "controller" && RoutePath.isCatchAll path then
    return .skipped (.defaultRoute path)
  let action := (optionValue options "action").literal?
  match Target.ofValue target with
  | .skipped reason => return .skipped reason
  | .full controller named =>
    return .ofParts scopes options path legacy (some controller) (some named)
  | reading =>
    match optionValue options "controller" with
    | .atom (.pattern _) => return .skipped .patternController
    | controller =>
      let named := match reading with
        | .bare named => some named
        | _ => action
      return .ofParts scopes options path legacy controller.literal? named

/-- What `root` leads to: its target, or else its `:controller` with the default action `index`. -/
def rootRoute (scopes : Scopes) (call : Call) : Except ShapeFault Outcome := do
  let own ← call.keywordOptions
  let options := scopes.defaults.merge own
  let inherited := optionValue options "to"
  let target := if inherited.isGiven then inherited else call.firstArgument?.getD .nothing
  if target.isRedirect then return .skipped .redirectRoot
  let named := match target with
    | .text content | .interpolated content =>
      if '#' ∈ content.toList then some (RoutePath.splitTarget? content) else none
    | _ => none
  let parts := match named with
    | some parts => parts
    | none =>
      let action := ((optionValue options "action").literal?.filter (· ≠ "")).getD "index"
      ((optionValue options "controller").literal?.filter (· ≠ "")).map fun name => (name, action)
  match parts with
  | some (controller, action) => return Outcome.ofNames scopes options controller action
  | none => return .skipped .malformedRoot

theorem directRoute_options {scopes : Scopes} {legacy : Bool} {call : Call}
    (unread : call.options = none) : directRoute scopes legacy call = .error .options := by
  simp [directRoute, Call.keywordOptions, unread, bind, Except.bind]

theorem rootRoute_options {scopes : Scopes} {call : Call} (unread : call.options = none) :
    rootRoute scopes call = .error .options := by
  simp [rootRoute, Call.keywordOptions, unread, bind, Except.bind]

end RouteTable
