/-
**What statements contribute.**

The routes that statements declare and the names that they add to the resource around them are
given here by a recursion on the statements. It is told the surroundings, which are the frames, the
parameters of the enclosing blocks and the grouping of the resource block, and it changes nothing:
what one statement contributes is not seen by the next one.

* `Contribution.append_assoc`, `Contribution.append_empty`: contributions are joined in order.
-/

import RouteTable.Recognizer
import RouteTable.Proofs.Walk.Form

namespace RouteTable

/-- Declared endpoints with their lines, in order, and the member and collection names for the
innermost resource. -/
structure Contribution where
  routes : List (Endpoint × Int) := []
  member : List String := []
  collection : List String := []
deriving DecidableEq, Repr

namespace Contribution

instance : Append Contribution where
  append first second :=
    ⟨first.routes ++ second.routes, first.member ++ second.member,
      first.collection ++ second.collection⟩

section Joining

variable (first second third : Contribution)

@[simp] theorem routes_append : (first ++ second).routes = first.routes ++ second.routes := rfl

@[simp] theorem member_append : (first ++ second).member = first.member ++ second.member := rfl

@[simp] theorem collection_append :
    (first ++ second).collection = first.collection ++ second.collection := rfl

@[simp] theorem empty_append : ({} : Contribution) ++ first = first := rfl

@[simp] theorem append_empty : first ++ ({} : Contribution) = first := by
  show (⟨_, _, _⟩ : Contribution) = first
  rw [List.append_nil, List.append_nil, List.append_nil]

theorem append_assoc : first ++ second ++ third = first ++ (second ++ third) := by
  show (⟨_, _, _⟩ : Contribution) = ⟨_, _, _⟩
  rw [routes_append, member_append, collection_append, List.append_assoc, List.append_assoc,
    List.append_assoc]
  rfl

end Joining

/-! ## Single contributions -/

/-- Endpoints that are declared at one line. -/
def ofEndpoints (line : Int) (endpoints : List Endpoint) : Contribution :=
  { routes := endpoints.map fun endpoint => (endpoint, line) }

/-- One name for the innermost resource. -/
def ofName : Grouping → String → Contribution
  | .member, action => { member := [action] }
  | .collection, action => { collection := [action] }

/-- What a direct route contributes: its endpoint, if it leads to one. -/
def ofOutcome (line : Int) : Except ShapeFault Outcome → Contribution
  | .ok (.route endpoint) => ofEndpoints line [endpoint]
  | _ => {}

/-- What a verb contributes: the name that it adds, or else its direct route. -/
def ofVerb (around : Surroundings) (call : Call) : Contribution :=
  match call.addedName? around with
  | some added => ofName added.1 added.2
  | none => ofOutcome call.line (directRoute around.scopes (call.name = Call.legacyVerb) call)

/-- What a resource contributes with the contribution of its block: the standard actions of every
controller, the routes of the block, and the added actions of every controller, member before
collection. A block that cannot be gone through gives none of the added actions. -/
def ofResource (kind : ResourceKind) (declaration : ResourceDeclaration) (line : Int)
    (inner : Option Contribution) : Contribution :=
  let declared (actions : List String) : Contribution :=
    ofEndpoints line (Recognizer.endpoints declaration.controllers actions)
  declared (kind.standardActions declaration.only declaration.except) ++
    match inner with
    | none => {}
    | some inner =>
      { routes := inner.routes } ++ declared (ResourceKind.extensionActions
        (declaration.member ++ inner.member) (declaration.collection ++ inner.collection))

/-! ## Statements -/

mutual

/-- What statements contribute, one after the other; what is not a call contributes nothing. -/
def ofStatements (around : Surroundings) : List Value → Contribution
  | [] => {}
  | .call call :: rest => ofCall around call ++ ofStatements around rest
  | .atom _ :: rest => ofStatements around rest
  | .array _ :: rest => ofStatements around rest
  | .hash _ :: rest => ofStatements around rest
termination_by structural statements => statements

/-- What a call contributes. A call with a part that is asked for and missing is given up. -/
def ofCall (around : Surroundings) : Call → Contribution
  | ⟨name, line, receiver, arguments, options, block⟩ =>
    let call : Call := ⟨name, line, receiver, arguments, options, block⟩
    let body (inner : Surroundings) : Option Contribution := match block with
      | none => some {}
      | some block => ofBlock inner block
    match call.form around with
    | .resource kind =>
      match ResourceDeclaration.ofCall around.scopes call with
      | .error _ => {}
      | .ok declaration =>
        if declaration.controllers.isEmpty then {}
        else match block with
          | none => ofEndpoints line (Recognizer.endpoints declaration.controllers (kind.allActions
              declaration.only declaration.except declaration.member declaration.collection))
          | some block =>
            ofResource kind declaration line
              (ofBlock { around with grouping := some .member } block)
    | .frame =>
      match call.frame? with
      | .error _ => {}
      | .ok none => (body around).getD {}
      | .ok (some frame) => (body { around with scopes := frame :: around.scopes }).getD {}
    | .grouping grouping => (body { around with grouping := some grouping }).getD {}
    | .verb => ofVerb around call
    | .root => ofOutcome line (rootRoute around.scopes call)
    | .template => {}
    | .named => ofOutcome line (directRoute around.scopes true call)
    | .unknown => (body around).getD {}
termination_by structural call => call

/-- What the statements of a block contribute; nothing can be said of a block without parameters
or without statements. -/
def ofBlock (around : Surroundings) : Block → Option Contribution
  | ⟨some parameters, some body⟩ =>
    some (ofStatements { around with parameters := parameters ++ around.parameters } body)
  | _ => none
termination_by structural block => block

end

theorem ofStatements_single (around : Surroundings) (call : Call) :
    ofStatements around [.call call] = ofCall around call := by
  rw [ofStatements, ofStatements, append_empty]

/-- Statements contribute one by one. -/
theorem ofStatements_cons (around : Surroundings) (statement : Value) (rest : List Value) :
    ofStatements around (statement :: rest) =
      ofStatements around [statement] ++ ofStatements around rest := by
  cases statement with
  | call call => rw [ofStatements, ofStatements_single]
  | atom | array | hash => simp only [ofStatements, empty_append]

theorem ofStatements_append (around : Surroundings) (statements others : List Value) :
    ofStatements around (statements ++ others) =
      ofStatements around statements ++ ofStatements around others := by
  induction statements with
  | nil => rfl
  | cons statement rest ih =>
    rw [List.cons_append, ofStatements_cons, ih, ofStatements_cons around statement rest,
      append_assoc]

end Contribution

end RouteTable
