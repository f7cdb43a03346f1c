/-
**Resource declarations.**

`resources :posts, only: [:index]` names its controllers and filters their standard actions. Inside
its block a verb with a bare name (`get :search, on: :collection`) adds an action to it.

* `extensionAction?_to`: a verb with a `:to` option adds no action.
-/

import RouteTable.RoutePath
import RouteTable.Scope

namespace RouteTable

/-- Where an added action belongs: to one thing of the resource or to all of them. -/
inductive Grouping
  | member
  | collection
deriving DecidableEq, Repr

namespace Grouping

/-- The grouping that a block call opens. -/
def ofWord? (word : String) : Option Grouping :=
  if word = "member" then some .member
  else if word = "collection" then some .collection
  else none

/-- The grouping that a verb asks for by its own `:on`, or else that of its block. -/
def ofOption (on : Value) (enclosing : Grouping) : Grouping :=
  match on.literal?.filter (· ≠ "") with
  | none => enclosing
  | some word => if word = "collection" then .collection else .member

end Grouping

/-- A resource declaration: its controllers, the filters and the actions added by its options. -/
structure ResourceDeclaration where
  controllers : List ControllerId
  only : Option (List String)
  except : Option (List String)
  member : List String
  collection : List String
deriving DecidableEq, Repr

namespace ResourceDeclaration

/-- Reads a declaration inside frames. -/
def ofCall (scopes : Scopes) (call : Call) : Except ShapeFault ResourceDeclaration := do
  let options := scopes.resourceDefaults.merge (← call.keywordOptions)
  let names ← call.literalArguments
  return {
    controllers := scopes.controllersOf names options
    only := (optionValue options "only").namesOf
    except := (optionValue options "except").namesOf
    member := (optionValue options "member").namesOf.getD []
    collection := (optionValue options "collection").namesOf.getD [] }

end ResourceDeclaration

/-- The action that a verb call adds to the resource around it; none if the call names a target,
a controller or a path of its own. -/
def extensionAction? (call : Call) : Except ShapeFault (Option String) := do
  let options ← call.keywordOptions
  if options.contains "to" || options.contains "controller" then return none
  match ← call.mapping? with
  | some (_, .symbol name) => return some name
  | some _ => return none
  | none =>
    let own := (optionValue options "action").literal?.filter (· ≠ "")
    let name := (own.or call.firstLiteral?).getD ""
    let bare := String.ofList (Text.strip (· = '/') name.toList)
    if bare = "" || '/' ∈ bare.toList || RoutePath.isDynamic bare then return none
    else return some bare

theorem extensionAction?_to {call : Call} {options : Assoc String Value}
    (read : call.keywordOptions = .ok options) (named : options.contains "to" = true) :
    extensionAction? call = .ok none := by
  simp [extensionAction?, read, named, bind, Except.bind, pure, Except.pure]

end RouteTable
