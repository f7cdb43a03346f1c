/-
**What every route of a tree has.**

Some properties of routes are settled call by call. If each call of a tree, read inside frames that
keep an invariant, leads to controllers and actions with a property, and each frame it opens keeps
the invariant, then all that the tree declares has the property. Names that a verb adds to a
resource are listed only when the resource closes, so the property is asked of them as well.

* `EveryCall`: what is asked of each call of a tree, at any depth;
* `CallRule`: what the readings of a call are to give;
* `CallRule.ofStatements_has`: then all contributions of a tree have the property;
* `CallRule.processAll_has`: and so do all routes of a sequence of files.
-/

import RouteTable.Proofs.Compare.Trees

namespace RouteTable

/-! ## Part 1 — the calls of a tree -/

mutual

/-- Every call among statements and in their blocks, at any depth, has a property. It may depend on
whether a resource block is around the call. -/
def EveryCall (holds : Bool → Call → Prop) (inResource : Bool) : List Value → Prop
  | [] => True
  | .call call :: rest =>
    EveryCall.ofCall holds inResource call ∧ EveryCall holds inResource rest
  | .atom _ :: rest => EveryCall holds inResource rest
  | .array _ :: rest => EveryCall holds inResource rest
  | .hash _ :: rest => EveryCall holds inResource rest
termination_by structural statements => statements

def EveryCall.ofCall (holds : Bool → Call → Prop) (inResource : Bool) : Call → Prop
  | ⟨name, line, receiver, arguments, options, block⟩ =>
    holds inResource ⟨name, line, receiver, arguments, options, block⟩ ∧
      match block with
      | none => True
      | some block =>
        EveryCall.ofBlock holds (inResource || (ResourceKind.ofWord? name).isSome) block
termination_by structural call => call

def EveryCall.ofBlock (holds : Bool → Call → Prop) (inResource : Bool) : Block → Prop
  | ⟨_, none⟩ => True
  | ⟨_, some body⟩ => EveryCall holds inResource body
termination_by structural block => block

end

mutual

/-- What holds of all calls holds of every call of a tree. -/
theorem EveryCall.of_forall {holds : Bool → Call → Prop}
    (always : ∀ inResource call, holds inResource call) : ∀ (statements : List Value)
      (inResource : Bool), EveryCall holds inResource statements
  | [], _ => trivial
  | .call call :: rest, inResource =>
    ⟨ofCall_of_forall always call inResource, of_forall always rest inResource⟩
  | .atom _ :: rest, inResource => of_forall always rest inResource
  | .array _ :: rest, inResource => of_forall always rest inResource
  | .hash _ :: rest, inResource => of_forall always rest inResource
termination_by structural statements => statements

theorem EveryCall.ofCall_of_forall {holds : Bool → Call → Prop}
    (always : ∀ inResource call, holds inResource call) : ∀ (call : Call) (inResource : Bool),
      EveryCall.ofCall holds inResource call
  | ⟨_, _, _, _, _, none⟩, inResource => ⟨always inResource _, trivial⟩
  | ⟨_, _, _, _, _, some block⟩, inResource =>
    ⟨always inResource _, ofBlock_of_forall always block _⟩
termination_by structural call => call

theorem EveryCall.ofBlock_of_forall {holds : Bool → Call → Prop}
    (always : ∀ inResource call, holds inResource call) : ∀ (block : Block) (inResource : Bool),
      EveryCall.ofBlock holds inResource block
  | ⟨_, none⟩, _ => trivial
  | ⟨_, some body⟩, inResource => of_forall always body inResource
termination_by structural block => block

end

/-! ## Part 2 — properties of what is declared -/

section Properties

variable (controller : ControllerId → Prop) (action : String → Prop)

/-- The controller and the action of an endpoint have their properties. -/
structure Endpoint.Has (endpoint : Endpoint) : Prop where
  controller : controller endpoint.controller
  action : action endpoint.action

/-- The controllers of a declaration and the actions added by its options have their properties. -/
structure ResourceDeclaration.Has (declaration : ResourceDeclaration) : Prop where
  controllers : ∀ found ∈ declaration.controllers, controller found
  member : ∀ name ∈ declaration.member, action name
  collection : ∀ name ∈ declaration.collection, action name

/-- All endpoints of a contribution have the properties, and all names that it adds are such
actions. -/
structure Contribution.Has (added : Contribution) : Prop where
  routes : ∀ declared ∈ added.routes, declared.1.Has controller action
  member : ∀ name ∈ added.member, action name
  collection : ∀ name ∈ added.collection, action name

end Properties

namespace Contribution.Has

variable {controller : ControllerId → Prop} {action : String → Prop}

theorem empty : Has controller action {} := by
  constructor <;> exact nofun

theorem append {first second : Contribution} (one : first.Has controller action)
    (two : second.Has controller action) : (first ++ second).Has controller action where
  routes _ member := (List.mem_append.mp member).elim (one.routes _) (two.routes _)
  member _ member := (List.mem_append.mp member).elim (one.member _) (two.member _)
  collection _ member := (List.mem_append.mp member).elim (one.collection _) (two.collection _)

theorem ofName {name : String} (named : action name) (grouping : Grouping) :
    (Contribution.ofName grouping name).Has controller action := by
  have only {other : String} (member : other ∈ [name]) : action other :=
    List.mem_singleton.mp member ▸ named
  cases grouping with
  | member => exact ⟨nofun, fun _ => only, nofun⟩
  | collection => exact ⟨nofun, nofun, fun _ => only⟩

theorem ofEndpoints {endpoints : List Endpoint}
    (each : ∀ endpoint ∈ endpoints, endpoint.Has controller action) (line : Int) :
    (Contribution.ofEndpoints line endpoints).Has controller action := by
  refine ⟨fun declared member => ?_, nofun, nofun⟩
  obtain ⟨endpoint, found, rfl⟩ := List.mem_map.mp member
  exact each endpoint found

/-- Each controller with each action. -/
theorem ofProduct {controllers : List ControllerId} {actions : List String}
    (left : ∀ found ∈ controllers, controller found) (right : ∀ name ∈ actions, action name)
    (line : Int) :
    (Contribution.ofEndpoints line (Recognizer.endpoints controllers actions)).Has controller
      action := by
  refine ofEndpoints (fun endpoint member => ?_) line
  simp only [Recognizer.endpoints, List.mem_flatMap, List.mem_map] at member
  obtain ⟨found, known, name, listed, rfl⟩ := member
  exact ⟨left found known, right name listed⟩

theorem inside {body : Option (Surroundings → Option Contribution)} {around : Surroundings}
    (each : ∀ walked ∈ body, ∀ added ∈ walked around, added.Has controller action) :
    (Contribution.inside body around).Has controller action := by
  cases body with
  | none => exact empty
  | some walked =>
    show ((walked around).getD {}).Has controller action
    have found := each walked rfl
    generalize walked around = given at found
    cases given with
    | none => exact empty
    | some added => exact found added rfl

/-- A resource lists its standard actions, the routes of its block and the names that its options
and its block add. -/
theorem ofResource {declaration : ResourceDeclaration}
    (declared : declaration.Has controller action) {kind : ResourceKind}
    (standard : ∀ name ∈ kind.actions, action name) {inner : Option Contribution}
    (each : ∀ added ∈ inner, added.Has controller action) (line : Int) :
    (Contribution.ofResource kind declaration line inner).Has controller action := by
  have kept (name : String)
      (member : name ∈ kind.standardActions declaration.only declaration.except) : action name :=
    standard name ((kind.standardActions_sublist _ _).mem member)
  refine append (ofProduct declared.controllers kept line) ?_
  cases inner with
  | none => exact empty
  | some added =>
    have given := each added rfl
    refine append ⟨given.routes, nofun, nofun⟩ (ofProduct declared.controllers ?_ line)
    intro name member
    simp only [ResourceKind.extensionActions, List.mem_append] at member
    rcases member with (own | inner) | own | inner
    · exact declared.member name own
    · exact given.member name inner
    · exact declared.collection name own
    · exact given.collection name inner

end Contribution.Has

/-! ## Part 3 — from calls to trees -/

/-- **What the readings of a call are to give.** The frames around a call keep an invariant, and of
each call something is asked, which may depend on whether a resource block is around it. Then what
is read of the call has the properties, and the frame that it opens keeps the invariant. -/
structure CallRule (controller : ControllerId → Prop) (action : String → Prop) where
  scopes : Scopes → Prop
  calls : Bool → Call → Prop
  standard : ∀ (kind : ResourceKind), ∀ name ∈ kind.actions, action name
  frame : ∀ {outer inResource call opened}, scopes outer → calls inResource call →
    call.frame? = .ok (some opened) → scopes (opened :: outer)
  declaration : ∀ {outer inResource call declaration}, scopes outer → calls inResource call →
    ResourceDeclaration.ofCall outer call = .ok declaration → declaration.Has controller action
  added : ∀ {call name}, calls true call → call.isVerb → extensionAction? call = .ok (some name) →
    action name
  direct : ∀ {outer inResource call legacy endpoint}, scopes outer → calls inResource call →
    directRoute outer legacy call = .ok (.route endpoint) → endpoint.Has controller action
  root : ∀ {outer inResource call endpoint}, scopes outer → calls inResource call →
    rootRoute outer call = .ok (.route endpoint) → endpoint.Has controller action

/-- Nothing else is read as a resource than a call with a resource word. -/
theorem Call.form_resource {call : Call} {around : Surroundings} {kind : ResourceKind}
    (read : call.form around = .resource kind) : ResourceKind.ofWord? call.name = some kind := by
  unfold form at read
  split at read
  · next word => exact word.trans (congrArg some (Form.resource.inj read))
  · split at read
    · cases read
    · split at read
      · cases read
      · unfold plainForm at read
        repeat' split at read
        all_goals cases read

/-- Nothing else is read as a verb than a call of such a name. -/
theorem Call.form_verb {call : Call} {around : Surroundings} (read : call.form around = .verb) :
    call.isVerb := by
  unfold form at read
  split at read
  · cases read
  · split at read
    · cases read
    · split at read
      · cases read
      · unfold plainForm at read
        split at read
        · assumption
        · repeat' split at read
          all_goals cases read

/-- A name that a verb adds is added inside a resource block, and it is read off the verb alone. -/
theorem Call.addedName?_some {call : Call} {around : Surroundings} {added : Grouping × String}
    (found : call.addedName? around = some added) :
    around.grouping.isSome ∧ extensionAction? call = .ok (some added.2) := by
  unfold addedName? at found
  split at found
  · next enclosing action own inside bare _ =>
    obtain rfl := Option.some.inj found
    exact ⟨inside ▸ rfl, bare⟩
  · cases found

namespace CallRule

variable {controller : ControllerId → Prop} {action : String → Prop}
  (rule : CallRule controller action)

/-- What a call sees of the blocks around it: frames that keep the invariant, and no open resource
that was not announced. -/
structure Around (inResource : Bool) (around : Surroundings) : Prop where
  scopes : rule.scopes around.scopes
  inResource : around.grouping.isSome → inResource

/-- What a plan is to give, where it is known of the block of the call whether a resource block is
around its statements. -/
def Gives (inBlock : Bool) (outer : Scopes) : Plan → Prop
  | .outcome (.route endpoint) => endpoint.Has controller action
  | .resource _ declaration => declaration.Has controller action ∧ inBlock
  | .extension _ name => action name
  | .frame opened => rule.scopes (opened :: outer)
  | .grouping _ => inBlock
  | _ => True

variable {rule} {inResource : Bool} {around : Surroundings} {call : Call}

theorem gives_outcome {inBlock : Bool} {outer : Scopes} {found : Except ShapeFault Outcome}
    {plan : Plan}
    (each : ∀ endpoint, found = .ok (.route endpoint) → endpoint.Has controller action)
    (read : found.map Plan.outcome = .ok plan) : rule.Gives inBlock outer plan := by
  cases found with
  | error fault => cases read
  | ok outcome =>
    obtain rfl := Except.ok.inj read
    cases outcome with
    | route endpoint => exact each endpoint rfl
    | skipped reason => exact trivial
    | nowhere => exact trivial

/-- The plan of a call gives what its readings give. -/
theorem gives_of_plan (known : rule.Around inResource around) (asked : rule.calls inResource call)
    {plan : Plan} (read : Plan.ofCall around call = .ok plan) :
    rule.Gives (inResource || (ResourceKind.ofWord? call.name).isSome) around.scopes plan := by
  rw [Plan.ofCall_form] at read
  cases form : call.form around with
  | resource kind =>
    rw [form, Plan.ofForm] at read
    cases declared : ResourceDeclaration.ofCall around.scopes call with
    | error fault =>
      rw [declared] at read
      cases read
    | ok declaration =>
      rw [declared] at read
      obtain rfl := Except.ok.inj read
      have word := Call.form_resource form
      dsimp only
      split
      · exact trivial
      · exact ⟨rule.declaration known.scopes asked declared, by simp [word]⟩
  | frame =>
    rw [form, Plan.ofForm] at read
    cases opened : call.frame? with
    | error fault =>
      rw [opened] at read
      cases read
    | ok frame =>
      rw [opened] at read
      obtain rfl := Except.ok.inj read
      cases frame with
      | none => exact trivial
      | some frame => exact rule.frame known.scopes asked opened
  | grouping grouping =>
    rw [form] at read
    obtain rfl := Except.ok.inj read
    have inside := known.inResource (Call.form_grouping form)
    show (inResource || _) = true
    rw [inside, Bool.true_or]
  | verb =>
    rw [form, Plan.ofForm, Plan.ofVerb_eq] at read
    cases found : call.addedName? around with
    | none =>
      rw [found] at read
      exact gives_outcome (fun endpoint => rule.direct known.scopes asked) read
    | some added =>
      rw [found] at read
      obtain rfl := Except.ok.inj read
      obtain ⟨inside, bare⟩ := Call.addedName?_some found
      rw [known.inResource inside] at asked
      exact rule.added asked (Call.form_verb form) bare
  | root =>
    rw [form] at read
    exact gives_outcome (fun endpoint => rule.root known.scopes asked) read
  | named =>
    rw [form] at read
    exact gives_outcome (fun endpoint => rule.direct known.scopes asked) read
  | template | unknown =>
    rw [form] at read
    obtain rfl := Except.ok.inj read
    exact trivial

/-- **One step: what a call contributes has the properties, if what its block contributes does.** -/
theorem ofCall_has_of_body (known : rule.Around inResource around)
    (asked : rule.calls inResource call)
    (bodies : ∀ {inner}, rule.Around (inResource || (ResourceKind.ofWord? call.name).isSome) inner →
      ∀ walked ∈ Contribution.bodyOf call, ∀ added ∈ walked inner, added.Has controller action) :
    (Contribution.ofCall around call).Has controller action := by
  rw [Contribution.ofCall_planned]
  have outside (inside : around.grouping.isSome) :
      inResource || (ResourceKind.ofWord? call.name).isSome := by
    rw [known.inResource inside, Bool.true_or]
  cases planned : Plan.ofCall around call with
  | error fault => exact .empty
  | ok plan =>
    have given := gives_of_plan known asked planned
    cases plan with
    | outcome outcome =>
      cases outcome with
      | route endpoint =>
        exact .ofEndpoints (fun _ member => List.mem_singleton.mp member ▸ given) call.line
      | skipped reason => exact .empty
      | nowhere => exact .empty
    | extension grouping name => exact .ofName given grouping
    | resource kind declaration =>
      obtain ⟨declared, opened⟩ := given
      have within : rule.Around (inResource || (ResourceKind.ofWord? call.name).isSome)
          { around with grouping := some .member } := ⟨known.scopes, fun _ => opened⟩
      cases block : Contribution.bodyOf call with
      | none =>
        refine .ofProduct declared.controllers (fun name member => ?_) call.line
        simp only [ResourceKind.allActions, ResourceKind.extensionActions,
          List.mem_append] at member
        rcases member with standard | own | own
        · exact rule.standard kind name ((kind.standardActions_sublist _ _).mem standard)
        · exact declared.member name own
        · exact declared.collection name own
      | some walked =>
        exact .ofResource declared (rule.standard kind) (bodies within walked block) call.line
    | frame frame => exact .inside (bodies ⟨given, outside⟩)
    | grouping grouping => exact .inside (bodies ⟨known.scopes, fun _ => given⟩)
    | descend => exact .inside (bodies ⟨known.scopes, outside⟩)

mutual

/-- **What statements contribute has the properties**, if each of their calls is as the rule
asks. -/
theorem ofStatements_has : ∀ (statements : List Value) {inResource : Bool} {around : Surroundings},
    rule.Around inResource around → EveryCall rule.calls inResource statements →
    (Contribution.ofStatements around statements).Has controller action
  | [], _, _, _, _ => .empty
  | .call call :: rest, _, _, known, ⟨first, others⟩ =>
    .append (ofCall_has call known first) (ofStatements_has rest known others)
  | .atom _ :: rest, _, _, known, others => ofStatements_has rest known others
  | .array _ :: rest, _, _, known, others => ofStatements_has rest known others
  | .hash _ :: rest, _, _, known, others => ofStatements_has rest known others
termination_by structural statements => statements

theorem ofCall_has : ∀ (call : Call) {inResource : Bool} {around : Surroundings},
    rule.Around inResource around → EveryCall.ofCall rule.calls inResource call →
    (Contribution.ofCall around call).Has controller action
  | ⟨_, _, _, _, _, none⟩, _, _, known, ⟨asked, _⟩ =>
    ofCall_has_of_body known asked fun _ walked missing =>
      absurd missing (Option.not_mem_none walked)
  | ⟨_, _, _, _, _, some block⟩, _, _, known, ⟨asked, others⟩ =>
    ofCall_has_of_body known asked fun inner _ walked added found => by
      obtain rfl := Option.some.inj walked
      exact ofBlock_has block inner others added found
termination_by structural call => call

theorem ofBlock_has : ∀ (block : Block) {inResource : Bool} {around : Surroundings},
    rule.Around inResource around → EveryCall.ofBlock rule.calls inResource block →
    ∀ added ∈ Contribution.ofBlock around block, added.Has controller action
  | ⟨none, _⟩, _, _, _, _ => fun added missing => absurd missing (Option.not_mem_none added)
  | ⟨some _, none⟩, _, _, _, _ => fun added missing => absurd missing (Option.not_mem_none added)
  | ⟨some parameters, some body⟩, _, around, known, others => fun added found => by
    have within : rule.Around _ { around with parameters := parameters ++ around.parameters } :=
      ⟨known.scopes, known.inResource⟩
    obtain rfl := Option.some.inj found
    exact ofStatements_has body within others
termination_by structural block => block

end

/-- **All routes of a sequence of files have the properties**, whatever was read before, if each
call of the files is as the rule asks. -/
theorem processAll_has (outermost : rule.scopes []) {files : List RoutingFile}
    (each : ∀ file ∈ files, EveryCall rule.calls false file.statements) (state : Recognizer) :
    ∀ found ∈ (Recognizer.processAll files state).1, ∀ route ∈ found,
      route.toEndpoint.Has controller action := by
  intro found listed route member
  rw [Recognizer.processAll_routes] at listed
  obtain ⟨file, known, rfl⟩ := List.mem_map.mp listed
  obtain ⟨declared, written, rfl⟩ := List.mem_map.mp member
  exact (ofStatements_has file.statements ⟨outermost, id⟩ (each file known)).routes declared
    written

end CallRule

end RouteTable
