/-
**The spellings of a direct route.**

A controller and an action may be written as the target that a path is mapped to, as a `:to` option,
as a `:controller` and an `:action` option, on a verb, on a named route or on a root. Each spelling
is read in its own way, past options that the frames hand down, past the reading of the path and, in
a resource block, past the question whether the verb adds an action. All of them come to the same
naming.

* `optionValue_front`, `optionValue_further`: what is read of options with more options behind them;
* `RouteNames.splitTarget?`: a target is read for the two names it is made of;
* `directRoute_of_mapping`, `directRoute_of_target`, `directRoute_of_options`: the ways in which a
  verb names a route;
* `dispatch_spellings`: all spellings declare the same route.
-/

import RouteTable.Proofs.Assoc
import RouteTable.Proofs.Compare.Options
import RouteTable.Proofs.Compare.Trees
import RouteTable.Proofs.Walk.Reading

namespace RouteTable

/-! ## Part 1 — options with further options behind them -/

section Options

variable (defaults : Assoc String Value) (front : List (String × Value))
  {further : List (String × Value)} {name : String}

/-- A name that is not among the further options has its value in front of them or in the
defaults. -/
theorem optionValue_front (absent : name ∉ further.map Prod.fst) :
    optionValue (defaults.merge (Assoc.ofEntries (front ++ further))) name =
      ((Assoc.get? front.reverse name).or (defaults.get? name)).getD .nothing := by
  have unwritten : Assoc.get? further.reverse name = none := by
    rw [Assoc.get?_eq_none_iff, Assoc.keys, List.map_reverse, List.mem_reverse]
    exact absent
  rw [optionValue, Assoc.get?_merge_ofEntries, List.reverse_append, Assoc.get?_append, unwritten,
    Option.none_or]

/-- A name that is not written in front has its value among the further options or in the
defaults. -/
theorem optionValue_further (absent : name ∉ front.map Prod.fst) :
    optionValue (defaults.merge (Assoc.ofEntries (front ++ further))) name =
      optionValue (defaults.merge (Assoc.ofEntries further)) name := by
  have unwritten : Assoc.get? front.reverse name = none := by
    rw [Assoc.get?_eq_none_iff, Assoc.keys, List.map_reverse, List.mem_reverse]
    exact absent
  rw [optionValue, optionValue, Assoc.get?_merge_ofEntries, Assoc.get?_merge_ofEntries,
    List.reverse_append, Assoc.get?_append, unwritten, Option.or_none]

end Options

/-- An option that no frame hands down is not among the defaults. -/
theorem Scopes.get?_defaults_of_forall {scopes : Scopes} {name : String}
    (each : ∀ frame ∈ scopes, frame.defaults.contains name = false) :
    scopes.defaults.get? name = none := by
  induction scopes with
  | nil => rfl
  | cons frame outer ih =>
    obtain ⟨here, others⟩ := List.forall_mem_cons.mp each
    have unwritten : Assoc.get? frame.defaults.reverse name = none := by
      have missing : frame.defaults.get? name = none := by
        simpa [Assoc.contains] using here
      rw [Assoc.get?_eq_none_iff] at missing ⊢
      rw [Assoc.keys, List.map_reverse, List.mem_reverse]
      exact missing
    rw [Scopes.defaults_cons, Assoc.get?_merge, unwritten, Option.none_or, ih others]

/-! ## Part 2 — names of a route -/

/-- A text is cut at the first mark in it. -/
theorem Text.cutAt_append {mark : Char} {before : List Char} (clean : mark ∉ before)
    (after : List Char) : cutAt mark (before ++ mark :: after) = some (before, after) := by
  induction before with
  | nil => rw [List.nil_append, cutAt, if_pos rfl]
  | cons head rest ih =>
    have other : head ≠ mark := fun same => clean (same ▸ List.mem_cons_self)
    have later : mark ∉ rest := fun inside => clean (List.mem_cons_of_mem head inside)
    rw [List.cons_append, cutAt, if_neg other, ih later]
    rfl

/-- A controller without a `#` and an action. -/
structure RouteNames where
  controller : String
  action : String
  controller_ne : controller ≠ ""
  action_ne : action ≠ ""
  unmarked : '#' ∉ controller.toList

namespace RouteNames

variable (names : RouteNames)

/-- The target that names both. -/
def target : String := names.controller ++ "#" ++ names.action

theorem target_toList :
    names.target.toList = names.controller.toList ++ '#' :: names.action.toList := by
  simp [target, String.toList_append]

/-- A target is read for the two names it is made of. -/
theorem splitTarget? :
    RoutePath.splitTarget? names.target = some (names.controller, names.action) := by
  have controller : names.controller.toList ≠ [] := by simpa using names.controller_ne
  have action : names.action.toList ≠ [] := by simpa using names.action_ne
  rw [RoutePath.splitTarget?, target_toList, Text.cutAt_append names.unmarked]
  simp [controller, action]

theorem mark_mem_target : '#' ∈ names.target.toList := by
  rw [target_toList]
  exact List.mem_append_right _ List.mem_cons_self

theorem ofValue_target :
    Target.ofValue (.text names.target) = .full names.controller names.action := by
  rw [Target.ofValue, if_pos names.mark_mem_target, names.splitTarget?]

/-- Names that are both known need no completion. -/
theorem complete (path : String) (legacy : Bool) :
    DirectReading.complete path legacy (some names.controller) (some names.action) =
      .ok (names.controller, names.action) := by
  simp [DirectReading.complete, Option.filter_some, names.controller_ne, names.action_ne]

/-- The endpoint of the names inside namespaces, if the controller has a segment. -/
def endpoint? (namespaces : List String) : Option Endpoint :=
  (ControllerId.ofName? namespaces names.controller).map fun found => ⟨found, names.action⟩

/-- There is an endpoint unless all that the controller is made of is separators. -/
theorem endpoint?_eq_none_iff (namespaces : List String) :
    names.endpoint? namespaces = none ↔
      ∀ piece ∈ pathPieces names.controller.toList, piece = [] := by
  have segments : names.endpoint? namespaces = none ↔ camelizeSegments names.controller = [] := by
    simp [endpoint?, ControllerId.ofName?]
  rw [segments, camelizeSegments, List.map_eq_nil_iff, List.filter_eq_nil_iff]
  simp

/-- What a naming with these names contributes. -/
theorem ofOutcome_eq (namespaces : List String) (module : Option String) (line : Int) :
    Contribution.ofOutcome line
        (.ok (Naming.outcome namespaces ⟨.ok (names.controller, names.action), module⟩)) =
      .ofEndpoints line
        (names.endpoint? (namespaces ++ camelizeSegments (module.getD ""))).toList := by
  unfold Naming.outcome endpoint?
  dsimp only
  cases ControllerId.ofName? (namespaces ++ camelizeSegments (module.getD "")) names.controller with
  | none => rfl
  | some found => rfl

end RouteNames

/-! ## Part 3 — two ways to name a route -/

section Direct

variable {names : RouteNames} {scopes : Scopes} {call : Call} {own : Assoc String Value}

/-- The naming of a call that is read for the names. -/
def RouteNames.naming (names : RouteNames) (module : Option String) : Naming :=
  ⟨.ok (names.controller, names.action), module⟩

theorem DirectReading.naming_of_target {reading : DirectReading} (legacy : Bool)
    (target : reading.target = .full names.controller names.action) :
    reading.naming legacy = names.naming reading.module := by
  rw [naming, DirectReading.names, target, RouteNames.naming]
  dsimp only
  rw [names.complete]

theorem DirectReading.naming_of_options {reading : DirectReading} (legacy : Bool)
    (target : reading.target = .unnamed) (own : reading.ownController = true)
    (plain : reading.patternController = false)
    (controller : reading.controller = some names.controller)
    (action : reading.action = some names.action) :
    reading.naming legacy = names.naming reading.module := by
  rw [naming, DirectReading.names, target, own, plain, controller, action, RouteNames.naming]
  simp [names.complete]

/-- A value that is read for a name is no pattern. -/
theorem Value.isPattern_of_literal {value : Value} {name : String}
    (read : value.literal? = some name) : value.isPattern = false := by
  unfold literal? at read
  split at read
  · rcases Atom.literal?_eq_some_iff.mp read with rfl | rfl <;> rfl
  · cases read

/-- A verb that maps a path to a target names what the target names. -/
theorem directRoute_of_mapping (legacy : Bool) {key : Atom} (read : call.keywordOptions = .ok own)
    (mapped : call.mapping? = .ok (some (key, .text names.target))) :
    directRoute scopes legacy call =
      .ok ((names.naming (optionValue (scopes.defaults.merge own) "module").literal?).outcome
        scopes.controllerNamespaces) := by
  rw [directRoute_eq, DirectReading.ofCall, read, mapped]
  show Except.ok ((DirectReading.naming _ legacy).outcome _) = _
  rw [DirectReading.naming_of_target legacy names.ofValue_target]

/-- A verb with a target among its options names what the target names. -/
theorem directRoute_of_target (legacy : Bool) (read : call.keywordOptions = .ok own)
    (unmapped : call.mapping? = .ok none)
    (target : optionValue (scopes.defaults.merge own) "to" = .text names.target) :
    directRoute scopes legacy call =
      .ok ((names.naming (optionValue (scopes.defaults.merge own) "module").literal?).outcome
        scopes.controllerNamespaces) := by
  rw [directRoute_eq, DirectReading.ofCall, read, unmapped]
  show Except.ok ((DirectReading.naming _ legacy).outcome _) = _
  rw [DirectReading.naming_of_target legacy (target ▸ names.ofValue_target)]

/-- A verb without a target names what its options name. -/
theorem directRoute_of_options (legacy : Bool) (read : call.keywordOptions = .ok own)
    (unmapped : call.mapping? = .ok none)
    (untargeted : optionValue (scopes.defaults.merge own) "to" = .nothing)
    (named : own.contains "controller" = true)
    (controller : (optionValue (scopes.defaults.merge own) "controller").literal? =
      some names.controller)
    (action : (optionValue (scopes.defaults.merge own) "action").literal? = some names.action) :
    directRoute scopes legacy call =
      .ok ((names.naming (optionValue (scopes.defaults.merge own) "module").literal?).outcome
        scopes.controllerNamespaces) := by
  rw [directRoute_eq, DirectReading.ofCall, read, unmapped]
  show Except.ok ((DirectReading.naming _ legacy).outcome _) = _
  rw [DirectReading.naming_of_options legacy (untargeted ▸ rfl) named
    (Value.isPattern_of_literal controller) controller action]

/-- A root with a target names what its target names. -/
theorem rootRoute_of_target (read : call.keywordOptions = .ok own)
    (target : optionValue (scopes.defaults.merge own) "to" = .text names.target) :
    rootRoute scopes call =
      .ok ((names.naming (optionValue (scopes.defaults.merge own) "module").literal?).outcome
        scopes.controllerNamespaces) := by
  have given : RootReading.targetOf (scopes.defaults.merge own) call = .text names.target := by
    rw [RootReading.targetOf, target]
    rfl
  rw [rootRoute_eq, RootReading.ofCall, read]
  simp only [bind, Except.bind, pure, Except.pure, Except.map, given, RootReading.naming,
    RootReading.namesIn, if_pos names.mark_mem_target, names.splitTarget?, RouteNames.naming]
  simp [Value.isRedirect]

end Direct

/-! ## Part 4 — calls that are spelled out -/

namespace Call

variable {call : Call} {entries : List (String × Value)}

/-- Entries under symbols are read for their names; other keys before them are passed over. -/
theorem keywordOptions_of_symbols (lead : List (Atom × Value))
    (other : ∀ entry ∈ lead, entry.1.symbolName? = none)
    (written : call.options =
      some (lead ++ entries.map fun entry => (.symbol entry.1, entry.2))) :
    call.keywordOptions = .ok (Assoc.ofEntries entries) := by
  have skipped : (lead.filterMap fun entry =>
      entry.1.symbolName?.map fun name => (name, entry.2)) = [] := by
    rw [List.filterMap_eq_nil_iff]
    intro entry inside
    rw [other entry inside]
    rfl
  have kept : (entries.map fun entry => ((.symbol entry.1, entry.2) : Atom × Value)).filterMap
      (fun entry => entry.1.symbolName?.map fun name => (name, entry.2)) = entries := by
    rw [List.filterMap_map]
    exact List.filterMap_some
  rw [keywordOptions_eq, written]
  dsimp only
  rw [List.filterMap_append, skipped, kept, List.nil_append]

/-- Entries under symbols map no path. -/
theorem mapping?_of_symbols
    (written : call.options = some (entries.map fun entry => (.symbol entry.1, entry.2))) :
    call.mapping? = .ok none := by
  rw [mapping?, written]
  simp [List.find?_eq_none]

end Call

namespace Contribution

variable {call : Call} {around : Surroundings}

/-- A verb that adds no action contributes its direct route, inside a resource block too. -/
theorem ofCall_verb_bare (verb : call.isVerb) (bare : extensionAction? call = .ok none) :
    ofCall around call =
      ofOutcome call.line (directRoute around.scopes (call.name = Call.legacyVerb) call) := by
  have nameless : call.addedName? around = none := by
    unfold Call.addedName?
    rw [bare]
    split
    · next added _ => cases added
    · rfl
  rw [ofCall_verb (Call.form_of_isVerb verb), ofVerb, nameless]

/-- A call with an unknown name on a block parameter contributes its direct route. -/
theorem ofCall_unknown_named (unknown : call.name ∉ Call.knownNames)
    (named : call.isNamedRoute around.parameters = true) :
    ofCall around call = ofOutcome call.line (directRoute around.scopes true call) :=
  ofCall_named (Call.form_named (Call.wordForm?_unknown unknown _) named)

theorem ofCall_root_word (root : call.name = "root") :
    ofCall around call = ofOutcome call.line (rootRoute around.scopes call) :=
  ofCall_root (Call.form_of_root root)

end Contribution

/-! ## Part 5 — the spellings -/

/-- A direct route that is to be spelled: its path and its names, with a value for each name; a
verb, a block parameter and a label to call it by; and further options, which name no target, no
controller and no action. -/
structure SpelledRoute where
  path : String
  names : RouteNames
  controller : Value
  action : Value
  verb : String
  parameter : String
  label : String
  line : Int
  further : List (String × Value)
  controller_literal : controller.literal? = some names.controller
  action_literal : action.literal? = some names.action
  verb_mem : verb ∈ Call.verbs ++ [Call.legacyVerb]
  label_not_mem : label ∉ Call.knownNames
  further_other : ∀ name ∈ ["to", "controller", "action"], name ∉ further.map Prod.fst

namespace SpelledRoute

variable (route : SpelledRoute)

/-- Options with the further ones behind them. -/
def options (front : List (String × Value)) : List (Atom × Value) :=
  (front ++ route.further).map fun entry => (.symbol entry.1, entry.2)

/-- The target as an option. -/
def targetOption : List (String × Value) := [("to", .text route.names.target)]

/-- The names as two options. -/
def namesOptions : List (String × Value) :=
  [("controller", route.controller), ("action", route.action)]

/-- `get "path" => "controller#action"` -/
def mapped : Call :=
  ⟨route.verb, route.line, none, some [],
    some ((.text route.path, .text route.names.target) :: route.options []), none⟩

/-- `get "path", to: "controller#action"` -/
def targeted : Call :=
  ⟨route.verb, route.line, none, some [.text route.path],
    some (route.options route.targetOption), none⟩

/-- `get "path", controller: "controller", action: "action"` -/
def named : Call :=
  ⟨route.verb, route.line, none, some [.text route.path],
    some (route.options route.namesOptions), none⟩

/-- `map.label "path", controller: "controller", action: "action"` -/
def labelled : Call :=
  ⟨route.label, route.line, some (.atom (.identifier route.parameter)), some [.text route.path],
    some (route.options route.namesOptions), none⟩

/-- `root to: "controller#action"` -/
def rooted : Call :=
  ⟨"root", route.line, none, some [], some (route.options route.targetOption), none⟩

/-- All spellings of the route. -/
def calls : List Call := [route.mapped, route.targeted, route.named, route.labelled, route.rooted]

/-- The endpoint of the route inside frames, if its controller has a segment. -/
def endpoint? (scopes : Scopes) : Option Endpoint :=
  let options := scopes.defaults.merge (Assoc.ofEntries route.further)
  route.names.endpoint? <| scopes.controllerNamespaces ++
    camelizeSegments ((optionValue options "module").literal?.getD "")

theorem isVerb {call : Call} (name : call.name = route.verb) : call.isVerb := by
  have listed := route.verb_mem
  rw [← name] at listed
  simpa [Call.isVerb] using listed

section Readings

variable {route} {scopes : Scopes} {call : Call} {front : List (String × Value)}

theorem keywordOptions_of_front (written : call.options = some (route.options front)) :
    call.keywordOptions = .ok (Assoc.ofEntries (front ++ route.further)) :=
  Call.keywordOptions_of_symbols [] nofun written

theorem mapping?_of_front (written : call.options = some (route.options front)) :
    call.mapping? = .ok none :=
  Call.mapping?_of_symbols written

/-- What a naming with the names of the route contributes, if the options in front write no
module. -/
theorem ofOutcome_naming (plain : "module" ∉ front.map Prod.fst) :
    let options := scopes.defaults.merge (Assoc.ofEntries (front ++ route.further))
    Contribution.ofOutcome route.line (.ok ((route.names.naming
        (optionValue options "module").literal?).outcome scopes.controllerNamespaces)) =
      .ofEndpoints route.line (route.endpoint? scopes).toList := by
  dsimp only
  rw [optionValue_further _ _ plain, RouteNames.naming, RouteNames.ofOutcome_eq]
  rfl

/-- The target that is written as an option. -/
theorem optionValue_to :
    optionValue (scopes.defaults.merge (Assoc.ofEntries (route.targetOption ++ route.further)))
      "to" = .text route.names.target :=
  optionValue_front scopes.defaults route.targetOption (route.further_other "to" (by decide))

/-- The names that are written as options lead a verb to the route, where no frame hands down a
target. -/
theorem directRoute_namesOptions (untargeted : scopes.defaults.get? "to" = none) (legacy : Bool)
    (written : call.options = some (route.options route.namesOptions)) :
    Contribution.ofOutcome route.line (directRoute scopes legacy call) =
      .ofEndpoints route.line (route.endpoint? scopes).toList := by
  have value (name : String) (listed : name ∈ ["to", "controller", "action"]) :=
    optionValue_front scopes.defaults route.namesOptions (route.further_other name listed)
  have target := value "to" (by decide)
  rw [untargeted] at target
  have controller := congrArg Value.literal? (value "controller" (by decide))
  have action := congrArg Value.literal? (value "action" (by decide))
  have named : "controller" ∈ (route.namesOptions ++ route.further).map Prod.fst :=
    List.mem_cons_self
  rw [directRoute_of_options legacy (keywordOptions_of_front written) (mapping?_of_front written)
    target (Assoc.contains_ofEntries.mpr named) (controller.trans route.controller_literal)
    (action.trans route.action_literal)]
  exact ofOutcome_naming (by simp [namesOptions])

end Readings

section Contributions

variable {route} {around : Surroundings}

theorem ofCall_mapped : Contribution.ofCall around route.mapped =
    .ofEndpoints route.line (route.endpoint? around.scopes).toList := by
  have read : route.mapped.keywordOptions = .ok (Assoc.ofEntries ([] ++ route.further)) :=
    Call.keywordOptions_of_symbols [(.text route.path, .text route.names.target)]
      (List.forall_mem_singleton.mpr rfl) rfl
  have mapping : route.mapped.mapping? =
      .ok (some (.text route.path, .text route.names.target)) := rfl
  have bare : extensionAction? route.mapped = .ok none := by
    rw [extensionAction?_eq, read, mapping]
    simp [bind, Except.bind, pure, Except.pure, Value.symbol?]
  rw [Contribution.ofCall_verb_bare (route.isVerb rfl) bare, directRoute_of_mapping _ read mapping]
  exact ofOutcome_naming List.not_mem_nil

theorem ofCall_targeted : Contribution.ofCall around route.targeted =
    .ofEndpoints route.line (route.endpoint? around.scopes).toList := by
  have read : route.targeted.keywordOptions = _ := keywordOptions_of_front rfl
  have written : "to" ∈ (route.targetOption ++ route.further).map Prod.fst := List.mem_cons_self
  have bare := extensionAction?_to read (Assoc.contains_ofEntries.mpr written)
  rw [Contribution.ofCall_verb_bare (route.isVerb rfl) bare,
    directRoute_of_target _ read (mapping?_of_front rfl) optionValue_to]
  exact ofOutcome_naming (by simp [targetOption])

theorem ofCall_named (untargeted : around.scopes.defaults.get? "to" = none) :
    Contribution.ofCall around route.named =
      .ofEndpoints route.line (route.endpoint? around.scopes).toList := by
  have read : route.named.keywordOptions = _ := keywordOptions_of_front rfl
  have mapping : route.named.mapping? = .ok none := mapping?_of_front rfl
  have written : "controller" ∈ (route.namesOptions ++ route.further).map Prod.fst :=
    List.mem_cons_self
  have bare : extensionAction? route.named = .ok none := by
    rw [extensionAction?_eq, read, mapping]
    simp [bind, Except.bind, pure, Except.pure, Assoc.contains_ofEntries.mpr written]
  rw [Contribution.ofCall_verb_bare (route.isVerb rfl) bare]
  exact directRoute_namesOptions untargeted _ rfl

theorem ofCall_labelled (untargeted : around.scopes.defaults.get? "to" = none)
    (visible : route.parameter ∈ around.parameters) :
    Contribution.ofCall around route.labelled =
      .ofEndpoints route.line (route.endpoint? around.scopes).toList := by
  have named : route.labelled.isNamedRoute around.parameters = true :=
    List.contains_iff_mem.mpr visible
  rw [Contribution.ofCall_unknown_named route.label_not_mem named]
  exact directRoute_namesOptions untargeted true rfl

theorem ofCall_rooted : Contribution.ofCall around route.rooted =
    .ofEndpoints route.line (route.endpoint? around.scopes).toList := by
  have read : route.rooted.keywordOptions = _ := keywordOptions_of_front rfl
  rw [Contribution.ofCall_root_word rfl, rootRoute_of_target read optionValue_to]
  exact ofOutcome_naming (by simp [targetOption])

end Contributions

end SpelledRoute

namespace Recognizer

/-- **All spellings of a direct route agree.** From every state in which no frame hands down a
target, inside and outside of resource blocks, and with every path and all further options: each
spelling of a route lists the same one endpoint, with the action of the route and, inside the same
namespaces, its controller, and no spelling adds a name to a resource. There is no endpoint exactly
if nothing but separators is in the name of the controller. -/
theorem dispatch_spellings (route : SpelledRoute) {state : Recognizer}
    (visible : route.parameter ∈ state.parameters)
    (untargeted : ∀ frame ∈ state.scopes, frame.defaults.contains "to" = false) :
    (route.endpoint? state.scopes = none ↔
        ∀ piece ∈ pathPieces route.names.controller.toList, piece = []) ∧
      (∀ endpoint ∈ route.endpoint? state.scopes, endpoint.action = route.names.action) ∧
      ∀ call ∈ route.calls,
        Adds (.ofEndpoints route.line (route.endpoint? state.scopes).toList) state
          (dispatch call state).1 := by
  have absent := Scopes.get?_defaults_of_forall untargeted
  refine ⟨route.names.endpoint?_eq_none_iff _, ?_, ?_⟩
  · intro endpoint found
    obtain ⟨controller, -, rfl⟩ := Option.map_eq_some_iff.mp found
    rfl
  · intro call listed
    have added := dispatch_adds call state
    simp only [SpelledRoute.calls, List.mem_cons, List.not_mem_nil, or_false] at listed
    rcases listed with rfl | rfl | rfl | rfl | rfl
    · rwa [SpelledRoute.ofCall_mapped] at added
    · rwa [SpelledRoute.ofCall_targeted] at added
    · rwa [SpelledRoute.ofCall_named absent] at added
    · rwa [SpelledRoute.ofCall_labelled absent visible] at added
    · rwa [SpelledRoute.ofCall_rooted] at added

/-- A path with the placeholders of every controller, in a namespace, in frames that hand down a
pattern for a controller and an action, and in the block of a resource. -/
theorem dispatch_spellings_catchAll :
    let names : RouteNames := ⟨"admin/posts", "list", by decide, by decide, by decide⟩
    let route : SpelledRoute :=
      ⟨":controller/:action/(:id)", names, .text "admin/posts", .symbol "list", "connect", "map",
        "listing", 3, [("module", .text "api"), ("on", .symbol "member")], rfl, rfl, by decide,
        by decide, by decide⟩
    let defaults : Assoc String Value :=
      [("controller", .atom (.pattern ".*")), ("action", .text "other")]
    let state : Recognizer := {
      scopes := [.withOptions defaults, .namespaced "shop"], parameters := ["map"],
      resources := [⟨[], [], [], .member⟩] }
    route.parameter ∈ state.parameters ∧
      (∀ frame ∈ state.scopes, frame.defaults.contains "to" = false) ∧
      ∀ call ∈ route.calls,
        Adds { routes := [(⟨⟨["Shop", "Api", "Admin"], "Posts"⟩, "list"⟩, 3)] } state
          (dispatch call state).1 := by
  intro names route defaults state
  have visible : route.parameter ∈ state.parameters := List.mem_cons_self
  have untargeted : ∀ frame ∈ state.scopes, frame.defaults.contains "to" = false := by decide
  obtain ⟨-, -, added⟩ := dispatch_spellings route visible untargeted
  have endpoint : route.endpoint? state.scopes =
      some ⟨⟨["Shop", "Api", "Admin"], "Posts"⟩, "list"⟩ := by decide +kernel
  rw [endpoint] at added
  exact ⟨visible, untargeted, added⟩

end Recognizer

end RouteTable
