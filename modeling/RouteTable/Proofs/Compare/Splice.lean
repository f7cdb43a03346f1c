/-
**Blocks that change nothing.**

Some blocks only stand around their statements: they have no parameters, and the call that they
belong to is not known, or it opens a frame in which there is nothing. Such a call may be replaced
by the statements of its block, wherever it stands. What it needs to be known of the place of a call
is which parameters can be seen there and whether a resource block is around it.

* `Call.IsTransparent`: the calls that only stand around their statements;
* `Contribution.ofCall_transparent`: such a call contributes what its statements do;
* `Contribution.ofCall_entered`, `Contribution.ofCall_body`: a call contributes the same with a body
  that does;
* `Spliced`: trees after replacing such calls, at any depth;
* `walk_spliced`, `process_spliced`: they declare the same.
-/

import RouteTable.Proofs.Compare.Fusion
import RouteTable.Proofs.Walk.Restoration

namespace RouteTable

/-! ## Places -/

/-- What decides the form of the calls at a place: the parameters of the blocks around it and
whether a resource block is among them. -/
structure Place where
  parameters : List String
  inResource : Bool
deriving DecidableEq, Repr

namespace Place

/-- The place of the statements of a file. -/
def outermost : Place := ⟨[], false⟩

/-- The place of the statements in the block of a call. -/
def enter (place : Place) (name : String) (parameters : List String) : Place :=
  ⟨parameters ++ place.parameters, place.inResource || (ResourceKind.ofWord? name).isSome⟩

end Place

/-- The place that has these surroundings. -/
def Surroundings.place (around : Surroundings) : Place :=
  ⟨around.parameters, around.grouping.isSome⟩

/-! ## Transparent calls -/

/-- Whether a resource is declared. -/
def Form.isResource : Form → Bool
  | .resource _ => true
  | _ => false

/-- The grouping that the statements in the block of a call are in, by the form of the call and by
the grouping that the call itself is in. -/
def Form.groupingInside (grouping : Option Grouping) : Form → Option Grouping
  | .resource _ => some .member
  | .grouping opened => some opened
  | _ => grouping

namespace Call

/-- **The call only stands around the statements of its block**: a call of an unknown name, a scope
without a module and a controller, a namespace without a name, options without a symbol, or a
grouping outside of resource blocks. A call that is not decided by its name is no named route. -/
inductive IsTransparent (place : Place) (call : Call) : Prop
  | ofUnknown (unknown : call.name ∉ knownNames)
      (unnamed : call.isNamedRoute place.parameters = false)
  | ofScope {own : Assoc String Value} (word : call.name = "scope")
      (read : call.keywordOptions = .ok own) (module : own.contains "module" = false)
      (controller : own.contains "controller" = false)
  | ofNamespace (word : call.name = "namespace") (nameless : ∀ name ∈ call.firstLiteral?, name = "")
  | ofOptions (word : call.name = "with_options") (read : call.keywordOptions = .ok [])
  | ofGrouping {opened : Grouping} (word : Grouping.ofWord? call.name = some opened)
      (outside : place.inResource = false) (unnamed : call.isNamedRoute place.parameters = false)

variable {call : Call} {around : Surroundings}

/-- Outside of resource blocks the word of a grouping decides nothing. -/
theorem wordForm?_of_grouping {opened : Grouping}
    (word : Grouping.ofWord? call.name = some opened) : call.wordForm? false = none := by
  have name : call.name = "member" ∨ call.name = "collection" := by
    unfold Grouping.ofWord? at word
    split at word
    · next member => exact .inl member
    · split at word
      · next collection => exact .inr collection
      · cases word
  rcases name with name | name
  all_goals
    simp [wordForm?, name, ResourceKind.ofWord?, namesFrame, isVerb, verbs, legacyVerb]

/-- A call is read as a resource if and only if it has a resource word. -/
theorem form_isResource (call : Call) (around : Surroundings) :
    (call.form around).isResource = (ResourceKind.ofWord? call.name).isSome := by
  rw [form_eq]
  unfold wordForm? receiverForm
  cases ResourceKind.ofWord? call.name with
  | some kind => rfl
  | none =>
    dsimp only
    repeat' split
    all_goals rfl

end Call

namespace Contribution

variable {around : Surroundings} {call : Call} {body : List Value}

/-- A frame that adds nothing may be left out. -/
theorem ofCall_idle (given : call.block = some ⟨some [], some body⟩) (word : call.namesFrame)
    {opened : Option Frame} (read : call.frame? = .ok opened)
    (idle : Scopes.AddsSegments [] around.scopes (opened.toList ++ around.scopes)) :
    ofCall around call = ofStatements around body := by
  rw [ofCall_opens around given word read, ← inside_plain]
  exact inside_same (.refl around.scopes) idle around _

/-- **A transparent call contributes what its statements do.** -/
theorem ofCall_transparent (transparent : call.IsTransparent around.place)
    (given : call.block = some ⟨some [], some body⟩) :
    ofCall around call = ofStatements around body := by
  have plain (form : call.form around = .unknown) :
      ofCall around call = ofStatements around body := by
    rw [ofCall_unknown form, bodyOf, given]
    rfl
  cases transparent with
  | ofUnknown unknown unnamed =>
    exact plain (Call.form_unknown (Call.wordForm?_unknown unknown _) unnamed)
  | @ofScope own word read module controller =>
    have absent {name : String} (missing : own.contains name = false) :
        optionValue own name = .nothing := by
      have unwritten : own.get? name = none := by simpa [Assoc.contains] using missing
      rw [optionValue, unwritten, Option.getD_none]
    have opened : call.frame? = .ok (some (.scoped none .nothing)) := by
      rw [Call.frame?_scope read word, absent module, absent controller]
      rfl
    exact ofCall_idle given (by simp [Call.namesFrame, word]) opened
      (.cons (.scoped none .nothing) rfl rfl around.scopes)
  | ofNamespace word nameless =>
    have opened : call.frame? = .ok none := by
      rw [Call.frame?_namespace word, Option.filter_eq_none_iff.mpr (by simpa using nameless)]
      rfl
    exact ofCall_idle given (by simp [Call.namesFrame, word]) opened (.refl around.scopes)
  | ofOptions word read =>
    exact ofCall_idle given (by simp [Call.namesFrame, word]) (Call.frame?_withOptions read word)
      (.cons (.withOptions []) rfl rfl around.scopes)
  | ofGrouping word outside unnamed =>
    have closed : around.grouping.isSome = false := outside
    exact plain (Call.form_unknown (closed ▸ Call.wordForm?_of_grouping word) unnamed)

end Contribution

/-! ## Bodies -/

namespace Plan

/-- The surroundings in which the block of a planned call is gone through. -/
def inner? (around : Surroundings) : Except ShapeFault Plan → Option Surroundings
  | .ok (.resource _ _) => some { around with grouping := some .member }
  | .ok (.frame opened) => some { around with scopes := opened :: around.scopes }
  | .ok (.grouping opened) => some { around with grouping := some opened }
  | .ok .descend => some around
  | _ => none

/-- Blocks that contribute the same where they are gone through are not told apart. -/
theorem ofPlan_congr {around : Surroundings} {line : Int}
    {body twin : Surroundings → Option Contribution} {plan : Except ShapeFault Plan}
    (same : ∀ inner ∈ inner? around plan, twin inner = body inner) :
    Contribution.ofPlan around line (some twin) plan =
      Contribution.ofPlan around line (some body) plan := by
  cases plan with
  | error fault => rfl
  | ok plan =>
    cases plan with
    | outcome outcome => rfl
    | extension grouping action => rfl
    | resource kind declaration =>
      exact congrArg (Contribution.ofResource kind declaration line) (same _ rfl)
    | frame opened => exact congrArg (·.getD {}) (same _ rfl)
    | grouping opened => exact congrArg (·.getD {}) (same _ rfl)
    | descend => exact congrArg (·.getD {}) (same _ rfl)

/-- Inside the block of a call the parameters are those around it, and the form of the call decides
the grouping. -/
theorem inner?_ofForm {around inner : Surroundings} {call : Call}
    (entered : inner ∈ inner? around (ofForm around call (call.form around))) :
    inner.parameters = around.parameters ∧
      inner.grouping = (call.form around).groupingInside around.grouping := by
  -- a direct route enters no block
  have direct (settled : (call.form around).isDirect) : False := by
    cases plan : ofForm around call (call.form around) with
    | error fault =>
      rw [plan] at entered
      cases entered
    | ok plan =>
      rw [plan] at entered
      obtain ⟨outcome, rfl⟩ | ⟨grouping, action, rfl⟩ := ofForm_direct settled plan
      all_goals cases entered
  cases form : call.form around with
  | resource kind =>
    rw [form, ofForm] at entered
    cases read : ResourceDeclaration.ofCall around.scopes call with
    | error fault =>
      rw [read] at entered
      cases entered
    | ok declaration =>
      rw [read, Except.map] at entered
      split at entered
      · cases entered
      · obtain rfl := Option.some.inj entered
        exact ⟨rfl, rfl⟩
  | frame =>
    rw [form, ofForm] at entered
    cases read : call.frame? with
    | error fault =>
      rw [read] at entered
      cases entered
    | ok opened =>
      rw [read] at entered
      cases opened <;> (obtain rfl := Option.some.inj entered; exact ⟨rfl, rfl⟩)
  | grouping opened =>
    rw [form] at entered
    obtain rfl := Option.some.inj entered
    exact ⟨rfl, rfl⟩
  | template =>
    rw [form] at entered
    cases entered
  | unknown =>
    rw [form] at entered
    obtain rfl := Option.some.inj entered
    exact ⟨rfl, rfl⟩
  | verb | root | named => exact (direct (form ▸ rfl)).elim

/-- In the block of a call a resource block is around if there was one before or if the call is read
as one. -/
theorem groupingInside_isSome (call : Call) (around : Surroundings) :
    ((call.form around).groupingInside around.grouping).isSome =
      (around.grouping.isSome || (ResourceKind.ofWord? call.name).isSome) := by
  rw [← Call.form_isResource call around]
  cases form : call.form around with
  | resource kind => exact (Bool.or_true _).symm
  | grouping opened =>
    rw [Call.form_grouping form]
    rfl
  | frame | verb | root | template | named | unknown => exact (Bool.or_false _).symm

/-- The place of the statements in the block of a call. -/
theorem inner?_place {around inner : Surroundings} {call : Call}
    (entered : inner ∈ inner? around (ofCall around call)) (parameters : List String) :
    Surroundings.place { inner with parameters := parameters ++ inner.parameters } =
      around.place.enter call.name parameters := by
  rw [ofCall_form] at entered
  obtain ⟨same, grouping⟩ := inner?_ofForm entered
  rw [Surroundings.place, same, grouping, groupingInside_isSome]
  rfl

/-- A plan does not depend on what stands in the block of the call. -/
theorem ofCall_block {around : Surroundings} {call : Call} {block : Option Block}
    (given : block.isSome = call.block.isSome) :
    ofCall around { call with block } = ofCall around call := by
  have name : Call.name { call with block } = call.name := rfl
  have decided : Call.wordForm? { call with block } around.grouping.isSome =
      call.wordForm? around.grouping.isSome := Call.wordForm?_congr name given _
  have form : Call.form { call with block } around = call.form around := by
    rw [Call.form_eq, Call.form_eq, decided]
    rfl
  rw [ofCall_form, ofCall_form, form]
  exact ofForm_congr rfl rfl rfl rfl (fun _ => rfl) fun _ => Iff.rfl

end Plan

/-- **A call contributes the same with a body that does**, in the surroundings in which its block is
gone through. -/
theorem Contribution.ofCall_entered {around : Surroundings} {call : Call}
    {parameters : Option (List String)} {body kept : List Value}
    (given : call.block = some ⟨parameters, some body⟩)
    (same : ∀ inner ∈ Plan.inner? around (Plan.ofCall around call),
      let within : Surroundings :=
        { inner with parameters := parameters.getD [] ++ inner.parameters }
      ofStatements within kept = ofStatements within body) :
    ofCall around { call with block := some ⟨parameters, some kept⟩ } = ofCall around call := by
  have plan : Plan.ofCall around { call with block := some ⟨parameters, some kept⟩ } =
      Plan.ofCall around call := Plan.ofCall_block (by rw [given]; rfl)
  rw [ofCall_planned, ofCall_planned, plan, bodyOf, bodyOf, given]
  refine Plan.ofPlan_congr fun inner entered => ?_
  cases parameters with
  | none => rfl
  | some parameters => exact congrArg some (same inner entered)

/-- A call contributes the same with a body that does in the places where its block may be gone
through. -/
theorem Contribution.ofCall_body {around : Surroundings} {call : Call}
    {parameters : Option (List String)} {body kept : List Value}
    (given : call.block = some ⟨parameters, some body⟩)
    (same : ∀ inner : Surroundings,
      inner.place = around.place.enter call.name (parameters.getD []) →
      ofStatements inner kept = ofStatements inner body) :
    ofCall around { call with block := some ⟨parameters, some kept⟩ } = ofCall around call :=
  ofCall_entered given fun _ entered => same _ (Plan.inner?_place entered _)

/-! ## Trees -/

/-- **Trees after transparent calls are replaced by the statements of their blocks**, any number of
them, at any depth. -/
inductive Spliced : Place → List Value → List Value → Prop
  | nil {place} : Spliced place [] []
  | keep {place statement rest others} : Spliced place rest others →
      Spliced place (statement :: rest) (statement :: others)
  | within {place call parameters body kept rest others} :
      call.block = some ⟨parameters, some body⟩ →
      Spliced (place.enter call.name (parameters.getD [])) body kept →
      Spliced place rest others →
      Spliced place (.call call :: rest)
        (.call { call with block := some ⟨parameters, some kept⟩ } :: others)
  | splice {place call body kept rest others} : call.IsTransparent place →
      call.block = some ⟨some [], some body⟩ → Spliced place body kept →
      Spliced place rest others → Spliced place (.call call :: rest) (kept ++ others)

/-- Spliced statements contribute the same. -/
theorem Spliced.ofStatements_eq {place : Place} {statements others : List Value}
    (spliced : Spliced place statements others) {around : Surroundings}
    (here : around.place = place) :
    Contribution.ofStatements around others = Contribution.ofStatements around statements := by
  induction spliced generalizing around with
  | nil => rfl
  | @keep place statement rest others _ ih =>
    rw [Contribution.ofStatements_cons, ih here, ← Contribution.ofStatements_cons]
  | within given _ _ inside ih =>
    subst here
    rw [Contribution.ofStatements, Contribution.ofStatements, ih rfl,
      Contribution.ofCall_body given fun inner entered => inside entered]
  | splice transparent given _ _ inside ih =>
    subst here
    rw [Contribution.ofStatements_append, inside rfl, ih rfl, Contribution.ofStatements,
      Contribution.ofCall_transparent transparent given]

namespace Recognizer

/-- From states with the same surroundings spliced statements list the same routes and give the
innermost open resource the same names. -/
theorem walk_spliced (state : Recognizer) {statements others : List Value}
    (spliced : Spliced state.surroundings.place statements others) :
    (walk others state).registry = (walk statements state).registry ∧
      (walk others state).resources = (walk statements state).resources :=
  walk_congr rfl rfl rfl (spliced.ofStatements_eq rfl)

/-- **Blocks that change nothing may be replaced by their statements.** In every file, at any depth,
in all kinds of blocks and together with calls that are given up: replacing transparent calls by the
statements of their blocks leaves the routes that the file declares and their order as they are. -/
theorem process_spliced {statements others : List Value}
    (spliced : Spliced .outermost statements others) (file : Option String) (state : Recognizer) :
    (process file others state).1 = (process file statements state).1 := by
  have same := walk_spliced (state.startFile file) spliced
  show (walk others (state.startFile file)).registry.toList.drop _ = _
  rw [same.1]
  rfl

/-- Transparent calls of each kind: in a resource block, in each other, and around a named route and
a call that is given up. -/
theorem process_spliced_nested :
    let block (body : List Value) : Option Block := some ⟨some [], some body⟩
    let preview : Call := ⟨"get", 5, none, some [.symbol "preview"], some [], none⟩
    let lost : Call := ⟨"get", 6, none, some [.symbol "search"], none, none⟩
    let login : Call := ⟨"login", 8, some (.atom (.identifier "map")), some [.text "/login"],
      some [(.symbol "controller", .text "sessions")], none⟩
    let home : Call := ⟨"root", 11, none, some [.text "home#index"], some [], none⟩
    let posts (body : List Value) : Call := ⟨"resources", 3, none, some [.symbol "posts"],
      some [(.symbol "only", .symbol "index")], block body⟩
    let draw (body : List Value) : List Value :=
      [.call ⟨"draw", 1, none, some [], some [], some ⟨some ["map"], some body⟩⟩]
    let constraints : Call := ⟨"constraints", 4, none, some [], some [], block [.call preview]⟩
    let member : Call := ⟨"member", 7, none, some [], some [], block [.call login]⟩
    let scope : Call := ⟨"scope", 2, none, some [], some [(.symbol "path", .text "/shop")],
      block [.call (posts [.call constraints, .call lost]), .call member]⟩
    let options : Call := ⟨"with_options", 10, none, some [], some [], block [.call home]⟩
    let namespaced : Call := ⟨"namespace", 9, none, some [], some [], block [.call options]⟩
    let statements := draw [.call scope, .call namespaced]
    let others := draw
      [.call (posts [.call preview, .call lost]), .call login, .call home]
    Spliced .outermost statements others ∧
      (process none statements {}).1.map (·.text) = ["PostsController#index",
        "PostsController#preview", "SessionsController#index", "HomeController#index"] ∧
      (process none others {}).1 = (process none statements {}).1 := by
  intro block preview lost login home posts draw constraints member scope options namespaced
    statements others
  have inPosts : Spliced ⟨["map"], true⟩ [.call constraints, .call lost]
      [.call preview, .call lost] :=
    .splice (.ofUnknown (by decide) (by decide)) rfl (.keep .nil) (.keep .nil)
  have inScope : Spliced ⟨["map"], false⟩
      [.call (posts [.call constraints, .call lost]), .call member]
      [.call (posts [.call preview, .call lost]), .call login] :=
    .within rfl inPosts (.splice (.ofGrouping rfl rfl (by decide)) rfl (.keep .nil) .nil)
  have inOptions : Spliced ⟨["map"], false⟩ [.call options] [.call home] :=
    .splice (.ofOptions rfl rfl) rfl (.keep .nil) .nil
  have inDraw : Spliced ⟨["map"], false⟩ [.call scope, .call namespaced]
      [.call (posts [.call preview, .call lost]), .call login, .call home] :=
    .splice (.ofScope rfl rfl (by decide) (by decide)) rfl inScope
      (.splice (.ofNamespace rfl (by decide)) rfl inOptions .nil)
  have spliced : Spliced .outermost statements others := .within rfl inDraw .nil
  exact ⟨spliced, by decide +kernel, process_spliced spliced none {}⟩

end Recognizer

end RouteTable
