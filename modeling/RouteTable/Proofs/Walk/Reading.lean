/-
**What a direct route reads.**

A verb, a named route and a root are read in two steps. First a few texts are taken from the call
and from the options that the frames hand down; they name a controller and an action, or they give
the reason why there is none. Only then the namespaces of the frames are put around the controller.

* `DirectReading.complete_ok`: where the names of a verb or a named route come from;
* `directRoute_eq`, `rootRoute_eq`: a direct route is its naming, placed in the namespaces;
* `directRoute_route`, `rootRoute_route`: what is read of a call that leads to a route;
* `extensionAction?_eq`: the action that a verb adds, if it names neither a target nor a controller.
-/

import RouteTable.DirectRoute
import RouteTable.Resource

namespace RouteTable

/-- What a call names, or the reason why it names nothing, with the module that it adds. -/
structure Naming where
  names : Except SkipReason (String × String)
  module : Option String

/-- The outcome of a naming inside namespaces. -/
def Naming.outcome (namespaces : List String) (naming : Naming) : Outcome :=
  match naming.names with
  | .error reason => .skipped reason
  | .ok (controller, action) =>
    let inner := camelizeSegments (naming.module.getD "")
    match ControllerId.ofName? (namespaces ++ inner) controller with
    | some found => .route ⟨found, action⟩
    | none => .nowhere

/-- Only a naming with names leads to a route: to the action, and to the controller inside the
namespaces and the module. -/
theorem Naming.outcome_route {namespaces : List String} {naming : Naming} {endpoint : Endpoint}
    (leads : naming.outcome namespaces = .route endpoint) :
    ∃ controller, naming.names = .ok (controller, endpoint.action) ∧
      ControllerId.ofName? (namespaces ++ camelizeSegments (naming.module.getD "")) controller =
        some endpoint.controller := by
  unfold outcome at leads
  split at leads
  · cases leads
  · next controller action named =>
    dsimp only at leads
    split at leads
    · next found placed =>
      obtain rfl := Outcome.route.inj leads
      exact ⟨controller, named, placed⟩
    · cases leads

/-- Whether a value is a pattern. -/
def Value.isPattern : Value → Bool
  | .atom (.pattern _) => true
  | _ => false

/-! ## Verbs and named routes -/

/-- What is read of a verb or a named route. -/
structure DirectReading where
  path : String
  target : Target
  ownController : Bool
  patternController : Bool
  controller : Option String
  action : Option String
  module : Option String
deriving DecidableEq

namespace DirectReading

/-- Reads a call that takes over default options. -/
def ofCall (defaults : Assoc String Value) (call : Call) : Except ShapeFault DirectReading := do
  let own ← call.keywordOptions
  let mapping ← call.mapping?
  let options := defaults.merge own
  return {
    path := (match mapping with
      | some (key, _) => key.literal?
      | none => call.firstLiteral?).getD ""
    target := .ofValue (match mapping with
      | some (_, value) => value
      | none => optionValue options "to")
    ownController := own.contains "controller"
    patternController := (optionValue options "controller").isPattern
    controller := (optionValue options "controller").literal?
    action := (optionValue options "action").literal?
    module := (optionValue options "module").literal? }

/-- What a reading was read from: the options of the call over the defaults, and its mapping. -/
theorem ofCall_ok {defaults : Assoc String Value} {call : Call} {reading : DirectReading}
    (read : ofCall defaults call = .ok reading) :
    ∃ own mapping, call.keywordOptions = .ok own ∧ call.mapping? = .ok mapping ∧
      reading.path = (match mapping with
        | some (key, _) => key.literal?
        | none => call.firstLiteral?).getD "" ∧
      reading.target = .ofValue (match mapping with
        | some (_, value) => value
        | none => optionValue (defaults.merge own) "to") ∧
      reading.controller = (optionValue (defaults.merge own) "controller").literal? ∧
      reading.action = (optionValue (defaults.merge own) "action").literal? ∧
      reading.module = (optionValue (defaults.merge own) "module").literal? := by
  unfold ofCall at read
  cases written : call.keywordOptions with
  | error fault =>
    rw [written] at read
    cases read
  | ok own =>
    cases mapped : call.mapping? with
    | error fault =>
      rw [written, mapped] at read
      cases read
    | ok mapping =>
      rw [written, mapped] at read
      obtain rfl := Except.ok.inj read
      exact ⟨own, mapping, rfl, rfl, rfl, rfl, rfl, rfl, rfl⟩

/-- The names where a controller, an action or both may be known; the path and the default action
fill in what is not. -/
def complete (path : String) (legacy : Bool) (controller action : Option String) :
    Except SkipReason (String × String) :=
  let suggested := if controller.isNone && action.isNone then RoutePath.splitPath? path else none
  match (controller.or (suggested.map Prod.fst)).filter (· ≠ "") with
  | none => .error .noController
  | some controller =>
    match ((action.or (suggested.map Prod.snd)).or (RoutePath.defaultAction? path legacy)).filter
        (· ≠ "") with
    | none => .error .noAction
    | some action => .ok (controller, action)

/-- Names that are completed are what is known, or else what the path suggests; for an action there
is a default in the end. Neither is empty. -/
theorem complete_ok {path : String} {legacy : Bool} {controller action : Option String}
    {names : String × String} (read : complete path legacy controller action = .ok names) :
    let suggested := if controller.isNone && action.isNone then RoutePath.splitPath? path else none
    controller.or (suggested.map Prod.fst) = some names.1 ∧ names.1 ≠ "" ∧
      (action.or (suggested.map Prod.snd)).or (RoutePath.defaultAction? path legacy) =
        some names.2 ∧ names.2 ≠ "" := by
  unfold complete at read
  dsimp only at read ⊢
  split at read
  · cases read
  · next placed =>
    split at read
    · cases read
    · next chosen =>
      obtain rfl := Except.ok.inj read
      obtain ⟨controller, some⟩ := Option.filter_eq_some_iff.mp placed
      obtain ⟨action, written⟩ := Option.filter_eq_some_iff.mp chosen
      exact ⟨controller, by simpa using some, action, by simpa using written⟩

/-- The names that are read off. -/
def names (reading : DirectReading) (legacy : Bool) : Except SkipReason (String × String) :=
  let own (action : Option String) :=
    if reading.patternController then .error .patternController
    else complete reading.path legacy reading.controller action
  match reading.target with
  | .skipped reason => .error reason
  | .full controller action => complete reading.path legacy (some controller) (some action)
  | .bare action => own (some action)
  | .unnamed =>
    if !reading.ownController && RoutePath.isCatchAll reading.path then
      .error (.defaultRoute reading.path)
    else own reading.action

/-- The naming that is read off. -/
def naming (reading : DirectReading) (legacy : Bool) : Naming :=
  ⟨reading.names legacy, reading.module⟩

/-- Names are completed from what is known; a controller that is known is that of the target or that
of the options. -/
theorem names_completed {reading : DirectReading} {legacy : Bool} {names : String × String}
    (read : reading.names legacy = .ok names) :
    ∃ controller action, complete reading.path legacy controller action = .ok names ∧
      ∀ name ∈ controller,
        (∃ action, reading.target = .full name action) ∨ reading.controller = some name := by
  have own {action : Option String}
      (read : (if reading.patternController then
        (.error .patternController : Except SkipReason (String × String))
        else complete reading.path legacy reading.controller action) = .ok names) :
      ∃ controller action, complete reading.path legacy controller action = .ok names ∧
        ∀ name ∈ controller,
          (∃ action, reading.target = .full name action) ∨ reading.controller = some name := by
    split at read
    · cases read
    · exact ⟨reading.controller, action, read, fun name known => .inr known⟩
  unfold DirectReading.names at read
  cases target : reading.target with
  | skipped reason =>
    rw [target] at read
    cases read
  | full controller action =>
    rw [target] at read
    refine ⟨some controller, some action, read, fun name known => .inl ⟨action, ?_⟩⟩
    rw [Option.some.inj known]
  | bare action =>
    rw [target] at read
    exact target ▸ own read
  | unnamed =>
    rw [target] at read
    dsimp only at read
    split at read
    · cases read
    · exact target ▸ own read

end DirectReading

/-- Only a value that is not given leaves a target unnamed. -/
theorem Value.isGiven_eq (value : Value) :
    value.isGiven = decide (Target.ofValue value ≠ .unnamed) := by
  unfold Target.ofValue
  split
  · rfl
  · rfl
  · split
    · split <;> rfl
    · rfl
  · next absent _ _ =>
    unfold Value.isGiven
    split
    · exact absurd rfl absent
    · rfl

theorem Outcome.ofParts_eq (scopes : Scopes) (options : Assoc String Value) (path : String)
    (legacy : Bool) (controller action : Option String) :
    Outcome.ofParts scopes options path legacy controller action =
      Naming.outcome scopes.controllerNamespaces
        ⟨DirectReading.complete path legacy controller action,
          (optionValue options "module").literal?⟩ := by
  unfold Outcome.ofParts DirectReading.complete Naming.outcome
  dsimp only
  generalize (controller.or _).filter _ = named
  cases named with
  | none => rfl
  | some controller =>
    dsimp only
    generalize ((action.or _).or _).filter _ = chosen
    cases chosen <;> rfl

/-- Where the target names no controller, the options do, unless by a pattern. -/
theorem Outcome.ofOptions_eq (scopes : Scopes) (options : Assoc String Value) (path : String)
    (legacy : Bool) (action : Option String) :
    (match optionValue options "controller" with
      | .atom (.pattern _) => (.ok (.skipped .patternController) : Except ShapeFault Outcome)
      | controller => .ok (.ofParts scopes options path legacy controller.literal? action)) =
      .ok (Naming.outcome scopes.controllerNamespaces
        ⟨if (optionValue options "controller").isPattern then .error .patternController
          else
            DirectReading.complete path legacy (optionValue options "controller").literal? action,
          (optionValue options "module").literal?⟩) := by
  split
  · next source pattern =>
    rw [pattern]
    rfl
  · next other =>
    have named : ¬(optionValue options "controller").isPattern := by
      unfold Value.isPattern
      split
      · next source pattern => exact absurd pattern (other source)
      · exact Bool.false_ne_true
    rw [Outcome.ofParts_eq, if_neg named]

/-- A direct route is its naming, placed in the namespaces of the frames. -/
theorem directRoute_eq (scopes : Scopes) (legacy : Bool) (call : Call) :
    directRoute scopes legacy call = (DirectReading.ofCall scopes.defaults call).map fun reading =>
      (reading.naming legacy).outcome scopes.controllerNamespaces := by
  unfold directRoute DirectReading.ofCall
  cases call.keywordOptions with
  | error fault => rfl
  | ok own =>
    cases call.mapping? with
    | error fault => rfl
    | ok mapping =>
      simp only [bind, Except.bind, pure, Except.pure, Except.map]
      -- whether a target is given can be told from what it says, so the value itself may go
      rw [Value.isGiven_eq]
      generalize Target.ofValue _ = target
      generalize Option.getD _ "" = path
      unfold DirectReading.naming DirectReading.names
      cases target with
      | skipped reason => rfl
      | full controller named => exact congrArg Except.ok (Outcome.ofParts_eq _ _ _ _ _ _)
      | bare named => exact Outcome.ofOptions_eq _ _ _ _ _
      | unnamed =>
        simp only [ne_eq, not_true_eq_false, decide_false, Bool.not_false, Bool.true_and]
        split
        · rfl
        · exact Outcome.ofOptions_eq _ _ _ _ _

/-- What is read of a verb or a named route that leads to a route. -/
theorem directRoute_route {scopes : Scopes} {legacy : Bool} {call : Call} {endpoint : Endpoint}
    (leads : directRoute scopes legacy call = .ok (.route endpoint)) :
    ∃ reading controller, DirectReading.ofCall scopes.defaults call = .ok reading ∧
      reading.names legacy = .ok (controller, endpoint.action) ∧
      ControllerId.ofName?
        (scopes.controllerNamespaces ++ camelizeSegments (reading.module.getD "")) controller =
          some endpoint.controller := by
  rw [directRoute_eq] at leads
  cases read : DirectReading.ofCall scopes.defaults call with
  | error fault =>
    rw [read] at leads
    cases leads
  | ok reading =>
    rw [read] at leads
    obtain ⟨controller, named, placed⟩ := Naming.outcome_route (Except.ok.inj leads)
    exact ⟨reading, controller, rfl, named, placed⟩

/-! ## Roots -/

/-- What is read of a root: whether it is redirected, what its target names if that has a mark
between a controller and an action, and what its options name. -/
structure RootReading where
  redirected : Bool
  target : Option (Option (String × String))
  controller : Option String
  action : Option String
  module : Option String
deriving DecidableEq

namespace RootReading

/-- The value that is the target of a root: its `:to`, or else its first argument. -/
def targetOf (options : Assoc String Value) (call : Call) : Value :=
  if (optionValue options "to").isGiven then optionValue options "to"
  else call.firstArgument?.getD .nothing

/-- What a target names; none if no mark is found in it. Interpolated text is looked through like
any other. -/
def namesIn : Value → Option (Option (String × String))
  | .text content | .interpolated content =>
    if '#' ∈ content.toList then some (RoutePath.splitTarget? content) else none
  | _ => none

/-- Reads a root that takes over default options. -/
def ofCall (defaults : Assoc String Value) (call : Call) : Except ShapeFault RootReading := do
  let options := defaults.merge (← call.keywordOptions)
  return {
    redirected := (targetOf options call).isRedirect
    target := namesIn (targetOf options call)
    controller := (optionValue options "controller").literal?
    action := (optionValue options "action").literal?
    module := (optionValue options "module").literal? }

/-- What a reading was read from: the options of the call over the defaults. -/
theorem ofCall_ok {defaults : Assoc String Value} {call : Call} {reading : RootReading}
    (read : ofCall defaults call = .ok reading) :
    ∃ own, call.keywordOptions = .ok own ∧
      reading.target = namesIn (targetOf (defaults.merge own) call) ∧
      reading.controller = (optionValue (defaults.merge own) "controller").literal? ∧
      reading.module = (optionValue (defaults.merge own) "module").literal? := by
  unfold ofCall at read
  cases written : call.keywordOptions with
  | error fault =>
    rw [written] at read
    cases read
  | ok own =>
    rw [written] at read
    obtain rfl := Except.ok.inj read
    exact ⟨own, rfl, rfl, rfl, rfl⟩

/-- The naming that is read off. -/
def naming (reading : RootReading) : Naming :=
  let named := reading.target.getD <|
    (reading.controller.filter (· ≠ "")).map fun controller =>
      (controller, (reading.action.filter (· ≠ "")).getD "index")
  ⟨if reading.redirected then .error .redirectRoot
    else match named with
      | some names => .ok names
      | none => .error .malformedRoot,
    reading.module⟩

/-- The names are those of the target, or else those of the options, where the action is `index` if
there is none. -/
theorem names_cases {reading : RootReading} {names : String × String}
    (read : reading.naming.names = .ok names) :
    reading.target = some (some names) ∨ reading.controller = some names.1 ∧
      names.2 = (reading.action.filter (· ≠ "")).getD "index" := by
  unfold naming at read
  cases redirected : reading.redirected with
  | true =>
    rw [redirected] at read
    cases read
  | false =>
    rw [redirected] at read
    dsimp only at read
    cases target : reading.target with
    | some given =>
      rw [target] at read
      cases given with
      | none => cases read
      | some given =>
        rw [Except.ok.inj read]
        exact .inl rfl
    | none =>
      rw [target] at read
      cases named : reading.controller.filter (· ≠ "") with
      | none =>
        rw [named] at read
        cases read
      | some controller =>
        rw [named] at read
        obtain rfl := Except.ok.inj read
        exact .inr ⟨(Option.filter_eq_some_iff.mp named).1, rfl⟩

end RootReading

/-- A root is its naming, placed in the namespaces of the frames. -/
theorem rootRoute_eq (scopes : Scopes) (call : Call) :
    rootRoute scopes call = (RootReading.ofCall scopes.defaults call).map fun reading =>
      reading.naming.outcome scopes.controllerNamespaces := by
  unfold rootRoute RootReading.ofCall
  cases call.keywordOptions with
  | error fault => rfl
  | ok own =>
    simp only [bind, Except.bind, pure, Except.pure, Except.map]
    generalize scopes.defaults.merge own = options
    unfold RootReading.targetOf
    generalize (if (optionValue options "to").isGiven then optionValue options "to"
      else call.firstArgument?.getD .nothing) = target
    unfold RootReading.naming
    cases target.isRedirect with
    | true => rfl
    | false =>
      -- what the target names is read in the same way on both sides
      unfold RootReading.namesIn
      dsimp only
      generalize Option.map _ _ = own
      cases target with
      | array | hash | call => cases own <;> rfl
      | atom target =>
        cases target with
        | symbol | pattern | identifier | expression | nothing => cases own <;> rfl
        | text content | interpolated content =>
          dsimp only
          generalize (if '#' ∈ content.toList then some (RoutePath.splitTarget? content)
            else none) = named
          cases named with
          | some parts => cases parts <;> rfl
          | none => cases own <;> rfl

/-- What is read of a root that leads to a route. -/
theorem rootRoute_route {scopes : Scopes} {call : Call} {endpoint : Endpoint}
    (leads : rootRoute scopes call = .ok (.route endpoint)) :
    ∃ reading controller, RootReading.ofCall scopes.defaults call = .ok reading ∧
      reading.naming.names = .ok (controller, endpoint.action) ∧
      ControllerId.ofName?
        (scopes.controllerNamespaces ++ camelizeSegments (reading.module.getD "")) controller =
          some endpoint.controller := by
  rw [rootRoute_eq] at leads
  cases read : RootReading.ofCall scopes.defaults call with
  | error fault =>
    rw [read] at leads
    cases leads
  | ok reading =>
    rw [read] at leads
    obtain ⟨controller, named, placed⟩ := Naming.outcome_route (Except.ok.inj leads)
    exact ⟨reading, controller, rfl, named, placed⟩

/-! ## Resources -/

/-- What names and options declare. -/
def ResourceDeclaration.ofOptions (scopes : Scopes) (names : List String)
    (options : Assoc String Value) : ResourceDeclaration where
  controllers := scopes.controllersOf names options
  only := (optionValue options "only").namesOf
  except := (optionValue options "except").namesOf
  member := (optionValue options "member").namesOf.getD []
  collection := (optionValue options "collection").namesOf.getD []

/-- A declaration is read off its names and off its options over the defaults. -/
theorem ResourceDeclaration.ofCall_eq (scopes : Scopes) (call : Call) :
    ofCall scopes call = do
      let own ← call.keywordOptions
      let names ← call.literalArguments
      return ofOptions scopes names (scopes.resourceDefaults.merge own) :=
  rfl

/-- What a declaration was read from: the options of the call over the defaults, and its names. -/
theorem ResourceDeclaration.ofCall_ok {scopes : Scopes} {call : Call}
    {declaration : ResourceDeclaration} (read : ofCall scopes call = .ok declaration) :
    ∃ own names, call.keywordOptions = .ok own ∧ call.literalArguments = .ok names ∧
      declaration.controllers = scopes.controllersOf names (scopes.resourceDefaults.merge own) ∧
      declaration.member =
        (optionValue (scopes.resourceDefaults.merge own) "member").namesOf.getD [] ∧
      declaration.collection =
        (optionValue (scopes.resourceDefaults.merge own) "collection").namesOf.getD [] := by
  unfold ofCall at read
  cases written : call.keywordOptions with
  | error fault =>
    rw [written] at read
    cases read
  | ok own =>
    cases listed : call.literalArguments with
    | error fault =>
      rw [written, listed] at read
      cases read
    | ok names =>
      rw [written, listed] at read
      obtain rfl := Except.ok.inj read
      exact ⟨own, names, rfl, rfl, rfl, rfl, rfl⟩

/-! ## Added actions -/

/-- The name of a symbol. -/
def Value.symbol? : Value → Option String
  | .symbol name => some name
  | _ => none

/-- The action that a bare name stands for; a path and a dynamic part stand for none. -/
def bareAction? (name : String) : Option String :=
  let bare := String.ofList (Text.strip (· = '/') name.toList)
  if bare = "" || '/' ∈ bare.toList || RoutePath.isDynamic bare then none else some bare

/-- The action that a verb adds is the symbol that it maps to, or else its `:action` or its first
argument, if that is a bare name. -/
theorem extensionAction?_eq (call : Call) :
    extensionAction? call = do
      let options ← call.keywordOptions
      let mapping ← call.mapping?
      return if options.contains "to" || options.contains "controller" then none
        else match mapping with
          | some (_, value) => value.symbol?
          | none => bareAction? <|
              (((optionValue options "action").literal?.filter (· ≠ "")).or
                call.firstLiteral?).getD "" := by
  unfold extensionAction? Call.mapping? Call.keywordOptions
  cases call.options with
  | none => rfl
  | some entries =>
    simp only [bind, Except.bind, pure, Except.pure]
    split
    · rfl
    · generalize entries.find? _ = mapping
      cases mapping with
      | none =>
        dsimp only [bareAction?]
        split <;> rfl
      | some mapped =>
        obtain ⟨key, value⟩ := mapped
        cases value with
        | atom plain => cases plain <;> rfl
        | array | hash | call => rfl

end RouteTable
