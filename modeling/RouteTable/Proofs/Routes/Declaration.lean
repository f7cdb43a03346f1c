/-
**Resources that are declared together.**

One declaration may name several resources, and it may have a block. Several names are declared one
after the other, each with the same options, so the routes are those of one declaration for each
name. A block splits the routes in two: the standard actions of all the controllers come before
it, and the added ones of all the controllers after it. If nothing is added inside, only the order
can tell.

* `endpoints_append_perm`: two sweeps over the controllers list what one sweep lists;
* `Contribution.ofCall_declared`, `Contribution.ofCall_hollow`: a declaration without a block and
  one with a block without statements;
* `ResourceDeclaration.endpointsOf_flatMap`: names are declared one by one;
* `emitted_resources`: several names, one name and an empty block.
-/

import RouteTable.Proofs.Compare.Trees
import RouteTable.Proofs.Walk.Reading
import Mathlib.Data.List.Perm.Basic

namespace RouteTable

/-! ## Endpoints -/

namespace Recognizer

/-- Sweeping twice over the controllers, once for each list of actions, gives what one sweep with
both lists gives, in another order. -/
theorem endpoints_append_perm (controllers : List ControllerId) (first second : List String) :
    (endpoints controllers first ++ endpoints controllers second).Perm
      (endpoints controllers (first ++ second)) := by
  simp only [endpoints, List.map_append]
  exact List.flatMap_append_perm controllers _ _

/-- The order is the same for a single controller, and where there is no second list. -/
theorem endpoints_append {controllers : List ControllerId} {first second : List String}
    (alone : controllers.length ≤ 1 ∨ second = []) :
    endpoints controllers first ++ endpoints controllers second =
      endpoints controllers (first ++ second) := by
  rcases alone with few | rfl
  · match controllers, few with
    | [], _ => rfl
    | [controller], _ => simp [endpoints]
  · simp [endpoints]

end Recognizer

/-! ## Declarations -/

namespace ResourceDeclaration

/-- The endpoints of a declaration without a block. -/
def endpoints (kind : ResourceKind) (declaration : ResourceDeclaration) : List Endpoint :=
  Recognizer.endpoints declaration.controllers (kind.allActions declaration.only declaration.except
    declaration.member declaration.collection)

/-- The endpoints of a declaration with a block in which nothing is added. -/
def hollowEndpoints (kind : ResourceKind) (declaration : ResourceDeclaration) : List Endpoint :=
  Recognizer.endpoints declaration.controllers
      (kind.standardActions declaration.only declaration.except) ++
    Recognizer.endpoints declaration.controllers
      (ResourceKind.extensionActions declaration.member declaration.collection)

variable (kind : ResourceKind) (declaration : ResourceDeclaration)

theorem hollowEndpoints_perm :
    (declaration.hollowEndpoints kind).Perm (declaration.endpoints kind) :=
  Recognizer.endpoints_append_perm _ _ _

variable {declaration} in
theorem hollowEndpoints_eq (alone : declaration.controllers.length ≤ 1 ∨
      declaration.member = [] ∧ declaration.collection = []) :
    declaration.hollowEndpoints kind = declaration.endpoints kind := by
  refine Recognizer.endpoints_append (alone.imp_right ?_)
  rintro ⟨member, collection⟩
  rw [member, collection, ResourceKind.extensionActions, List.append_nil]

/-- The endpoints that options declare for the names among arguments. -/
def endpointsOf (scopes : Scopes) (options : Assoc String Value) (arguments : List Value) :
    List Endpoint :=
  (ofOptions scopes (Value.nonempty (arguments.filterMap Value.literal?)) options).endpoints kind

theorem endpointsOf_append (scopes : Scopes) (options : Assoc String Value)
    (first second : List Value) :
    endpointsOf kind scopes options (first ++ second) =
      endpointsOf kind scopes options first ++ endpointsOf kind scopes options second := by
  simp only [endpointsOf, endpoints, ofOptions, Recognizer.endpoints, Scopes.controllersOf,
    Value.nonempty, List.filterMap_append, List.filter_append, List.flatMap_append]

/-- **Names are declared one by one.** -/
theorem endpointsOf_flatMap (scopes : Scopes) (options : Assoc String Value)
    (arguments : List Value) :
    endpointsOf kind scopes options arguments =
      arguments.flatMap fun argument => endpointsOf kind scopes options [argument] := by
  induction arguments with
  | nil => rfl
  | cons argument rest ih =>
    rw [List.flatMap_cons, ← ih, ← endpointsOf_append, List.singleton_append]

end ResourceDeclaration

/-! ## Contributions -/

namespace Contribution

theorem ofEndpoints_append (line : Int) (first second : List Endpoint) :
    ofEndpoints line (first ++ second) = ofEndpoints line first ++ ofEndpoints line second := by
  simp only [ofEndpoints, List.map_append]
  rfl

/-- The routes of endpoints that are declared at one line of a file. -/
theorem routesIn_ofEndpoints (line : Int) (endpoints : List Endpoint) (file : Option String) :
    (ofEndpoints line endpoints).routesIn file =
      endpoints.map fun endpoint => { endpoint with file, line } := by
  rw [routesIn, ofEndpoints, List.map_map]
  rfl

variable (around : Surroundings) (call : Call) {kind : ResourceKind}

/-- A declaration without a block contributes its endpoints; there are none without a
controller. -/
theorem ofCall_declared (word : ResourceKind.ofWord? call.name = some kind)
    (plain : call.block = none) {declaration : ResourceDeclaration}
    (read : ResourceDeclaration.ofCall around.scopes call = .ok declaration) :
    ofCall around call = ofEndpoints call.line (declaration.endpoints kind) := by
  rw [ofCall_planned, Plan.ofCall_resources word, read, bodyOf, plain]
  dsimp only [Except.map]
  split
  · next empty =>
    rw [ResourceDeclaration.endpoints, List.isEmpty_iff.mp empty]
    rfl
  · rfl

/-- A declaration with a block without statements contributes its endpoints in two sweeps. -/
theorem ofCall_hollow (word : ResourceKind.ofWord? call.name = some kind)
    {parameters : List String} (hollow : call.block = some ⟨some parameters, some []⟩)
    {declaration : ResourceDeclaration}
    (read : ResourceDeclaration.ofCall around.scopes call = .ok declaration) :
    ofCall around call = ofEndpoints call.line (declaration.hollowEndpoints kind) := by
  rw [ofCall_planned, Plan.ofCall_resources word, read, bodyOf, hollow]
  dsimp only [Except.map]
  split
  · next empty =>
    rw [ResourceDeclaration.hollowEndpoints, List.isEmpty_iff.mp empty]
    rfl
  · show ofResource kind declaration call.line (some {}) = _
    rw [ofResource, List.append_nil, List.append_nil, ResourceDeclaration.hollowEndpoints,
      ofEndpoints_append]
    rfl

/-- A declaration that cannot be read contributes nothing. -/
theorem ofCall_unread (word : ResourceKind.ofWord? call.name = some kind) {fault : ShapeFault}
    (unread : ResourceDeclaration.ofCall around.scopes call = .error fault) :
    ofCall around call = {} := by
  rw [ofCall_planned, Plan.ofCall_resources word, unread]
  rfl

/-- What a declaration without a block contributes depends on its options and on the names among its
arguments. -/
theorem ofCall_arguments (word : ResourceKind.ofWord? call.name = some kind)
    (plain : call.block = none) {arguments : List Value}
    (listed : call.arguments = some arguments) :
    ofCall around call = match call.keywordOptions with
      | .error _ => {}
      | .ok own => ofEndpoints call.line (ResourceDeclaration.endpointsOf kind around.scopes
          (around.scopes.resourceDefaults.merge own) arguments) := by
  have names : call.literalArguments = .ok (Value.nonempty (arguments.filterMap Value.literal?)) :=
    by rw [Call.literalArguments, listed]
  have read := ResourceDeclaration.ofCall_eq around.scopes call
  cases written : call.keywordOptions with
  | error fault =>
    rw [written] at read
    exact ofCall_unread around call word read
  | ok own =>
    rw [written, names] at read
    exact ofCall_declared around call word plain read

end Contribution

namespace Recognizer

/-- **Several names, one name and an empty block.** From every state, with any arguments and any
options, also unreadable ones: a declaration without a block lists the routes of the declarations
with one of its arguments each, in the order of the arguments. With a block in which nothing stands
it lists the same routes, in another order at most; in the same order if it has no more than one
controller, or if its options add no action. -/
theorem emitted_resources {call : Call} {kind : ResourceKind} {arguments : List Value}
    (word : ResourceKind.ofWord? call.name = some kind) (plain : call.block = none)
    (listed : call.arguments = some arguments) (parameters : List String) (state : Recognizer) :
    let single (argument : Value) : Call := { call with arguments := some [argument] }
    let hollow : Call := { call with block := some ⟨some parameters, some []⟩ }
    emitted [.call call] state =
        arguments.flatMap (fun argument => emitted [.call (single argument)] state) ∧
      (emitted [.call hollow] state).Perm (emitted [.call call] state) ∧
      ∀ declaration, ResourceDeclaration.ofCall state.scopes call = .ok declaration →
        (declaration.controllers.length ≤ 1 ∨
          declaration.member = [] ∧ declaration.collection = []) →
        emitted [.call hollow] state = emitted [.call call] state := by
  intro single hollow
  simp only [emitted_call]
  refine ⟨?_, ?_⟩
  · have each (argument : Value) :=
      Contribution.ofCall_arguments state.surroundings (single argument) word plain rfl
    have whole := Contribution.ofCall_arguments state.surroundings call word plain listed
    have same (argument : Value) : (single argument).keywordOptions = call.keywordOptions := rfl
    simp only [each, whole, same]
    cases call.keywordOptions with
    | error fault => simp [Contribution.routesIn]
    | ok own =>
      simp only [Contribution.routesIn_ofEndpoints]
      rw [ResourceDeclaration.endpointsOf_flatMap, List.map_flatMap]
  · have same : ResourceDeclaration.ofCall state.scopes hollow =
        ResourceDeclaration.ofCall state.scopes call := rfl
    cases read : ResourceDeclaration.ofCall state.scopes call with
    | error fault =>
      have quiet := Contribution.ofCall_unread state.surroundings call word read
      have hollowQuiet :=
        Contribution.ofCall_unread state.surroundings hollow word (same.trans read)
      rw [quiet, hollowQuiet]
      refine ⟨.refl _, fun declaration declared => ?_⟩
      cases declared
    | ok declaration =>
      have declared := Contribution.ofCall_declared state.surroundings call word plain read
      have swept :=
        Contribution.ofCall_hollow state.surroundings hollow word rfl (same.trans read)
      rw [declared, swept, Contribution.routesIn_ofEndpoints, Contribution.routesIn_ofEndpoints]
      refine ⟨(declaration.hollowEndpoints_perm kind).map _, fun other equal alone => ?_⟩
      obtain rfl := Except.ok.inj equal
      rw [ResourceDeclaration.hollowEndpoints_eq kind alone]

/-- Two names and a number between them, in a namespace and inside options that add an action. -/
theorem emitted_resources_inherited :
    let call : Call := ⟨"resources", 3, none,
      some [.symbol "posts", .atom (.expression "3"), .text "users"],
      some [(.symbol "only", .symbol "index")], none⟩
    let single (argument : Value) : Call := { call with arguments := some [argument] }
    let hollow : Call := { call with block := some ⟨some ["posts"], some []⟩ }
    let state : Recognizer :=
      { scopes := [.withOptions [("member", .symbol "preview")], .namespaced "admin"] }
    ResourceKind.ofWord? call.name = some .plural ∧
      (emitted [.call call] state).map (·.text) =
        ["Admin::PostsController#index", "Admin::PostsController#preview",
          "Admin::UsersController#index", "Admin::UsersController#preview"] ∧
      emitted [.call call] state = emitted [.call (single (.symbol "posts"))] state ++
        emitted [.call (single (.atom (.expression "3")))] state ++
        emitted [.call (single (.text "users"))] state ∧
      (emitted [.call hollow] state).map (·.text) =
        ["Admin::PostsController#index", "Admin::UsersController#index",
          "Admin::PostsController#preview", "Admin::UsersController#preview"] ∧
      (emitted [.call hollow] state).Perm (emitted [.call call] state) := by
  intro call single hollow state
  have word : ResourceKind.ofWord? call.name = some .plural := by decide
  obtain ⟨listed, permuted, -⟩ := emitted_resources word rfl rfl ["posts"] state
  refine ⟨word, by decide +kernel, ?_, by decide +kernel, permuted⟩
  simpa using listed

end Recognizer

end RouteTable
