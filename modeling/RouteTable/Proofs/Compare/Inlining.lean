/-
**Defaults that are written out.**

A `with_options` block hands its options down to the calls inside it, and a call that declares its
routes by itself reads the options of its own over those of all the frames. So the options of the
block may as well be written at each of the calls, where the call does not write them itself. Only
one thing is read of the own options alone: whether they name a controller. It is asked of a path
that leads to every controller, and of nothing else.

* `Call.withDefaults`: a call with defaults written at it;
* `Assoc.WrittenOut`: such options in all frames;
* `DirectReading.ofCall_withDefaults`, `RootReading.ofCall_withDefaults`,
  `ResourceDeclaration.ofCall_withDefaults`: what is read of a call with defaults;
* `Contribution.ofCall_withDefaults`: a call that is flat contributes the same;
* `walk_inlined`: a block with options, and the same calls with the options written at each.
-/

import RouteTable.Proofs.Assoc
import RouteTable.Proofs.Compare.Options
import RouteTable.Proofs.Compare.Splice
import RouteTable.Proofs.Routes.Declaration

namespace RouteTable

/-! ## Part 1 — options -/

/-- Options as they are written at a call. -/
def symbolEntries (options : Assoc String Value) : List (Atom × Value) :=
  options.map fun entry => (.symbol entry.1, entry.2)

theorem namedEntries_symbolEntries (options : Assoc String Value) :
    namedEntries (symbolEntries options) = options := by
  rw [namedEntries, symbolEntries, List.filterMap_map]
  exact List.filterMap_some

/-- Options with defaults after them, as far as their names are not written. -/
def underOptions (defaults : Assoc String Value) (own : List (Atom × Value)) :
    List (Atom × Value) :=
  own ++ symbolEntries (defaults.filter fun entry => !Assoc.contains own (.symbol entry.1))

/-- **Own values win**: the last value of a name is the own one, or else the default. -/
theorem get?_underOptions (defaults : Assoc String Value) (own : List (Atom × Value))
    (name : String) :
    Assoc.get? (namedEntries (underOptions defaults own)).reverse name =
      (Assoc.get? (namedEntries own).reverse name).or (Assoc.get? defaults.reverse name) := by
  have written : Assoc.contains own (.symbol name) =
      (Assoc.get? (namedEntries own).reverse name).isSome := by
    rw [← Assoc.contains, Assoc.contains_reverse, Assoc.contains, Assoc.contains, get?_namedEntries]
  have entries : namedEntries (underOptions defaults own) = namedEntries own ++
      defaults.filter fun entry => !Assoc.contains own (.symbol entry.1) := by
    rw [← namedEntries_symbolEntries (defaults.filter _)]
    exact List.filterMap_append
  rw [entries, List.reverse_append, Assoc.get?_append, ← List.filter_reverse,
    Assoc.get?_filter (fun key => !Assoc.contains own (.symbol key)), written]
  cases Assoc.get? (namedEntries own).reverse name with
  | none => exact Option.or_none
  | some value => rfl

/-- A name has the own value, or else the default. -/
theorem Assoc.get?_ofEntries_underOptions (defaults : Assoc String Value)
    (own : List (Atom × Value)) (name : String) :
    get? (.ofEntries (namedEntries (underOptions defaults own))) name =
      (get? (.ofEntries (namedEntries own)) name).or (get? (.ofEntries defaults) name) := by
  rw [get?_ofEntries, get?_ofEntries, get?_ofEntries, get?_underOptions]

/-- **Options with defaults written out.** Over all others they are read as the own options over the
defaults. -/
structure Assoc.WrittenOut (defaults own merged : Assoc String Value) : Prop where
  value (outer : Assoc String Value) (name : String) :
    optionValue (outer.merge merged) name = optionValue ((outer.merge defaults).merge own) name
  contains (name : String) : merged.contains name = (own.contains name || defaults.contains name)

theorem Assoc.WrittenOut.ofEntries (defaults : Assoc String Value) (own : List (Atom × Value)) :
    WrittenOut (.ofEntries defaults) (.ofEntries (namedEntries own))
      (.ofEntries (namedEntries (underOptions defaults own))) where
  value outer name := by
    rw [optionValue, optionValue, get?_merge_ofEntries, get?_merge_ofEntries, get?_merge_ofEntries,
      get?_underOptions, Option.or_assoc]
  contains name := by
    rw [Assoc.contains, Assoc.contains, Assoc.contains, get?_ofEntries_underOptions,
      Option.isSome_or]

namespace Call

/-- **The call with defaults written at it**, after its own options: those that it does not write
itself. -/
def withDefaults (defaults : Assoc String Value) (call : Call) : Call :=
  { call with options := call.options.map (underOptions defaults) }

variable (defaults : Assoc String Value) (call : Call)

theorem keywordOptions_withDefaults :
    ReadAlike (Assoc.WrittenOut (.ofEntries defaults)) call.keywordOptions
      (call.withDefaults defaults).keywordOptions := by
  rw [keywordOptions_eq, keywordOptions_eq, withDefaults]
  cases call.options with
  | none => exact .fault
  | some own => exact .read (.ofEntries defaults own)

/-- Options that are written under symbols are read as they are. -/
theorem keywordOptions_symbolEntries {defaults : Assoc String Value} {call : Call}
    (written : call.options = some (symbolEntries defaults)) :
    call.keywordOptions = .ok (.ofEntries defaults) := by
  rw [keywordOptions_eq, written]
  exact congrArg (Except.ok ∘ Assoc.ofEntries) (namedEntries_symbolEntries defaults)

/-- Defaults have no path among them. -/
theorem mapping?_withDefaults : (call.withDefaults defaults).mapping? = call.mapping? := by
  rw [mapping?, mapping?, withDefaults]
  cases call.options with
  | none => rfl
  | some own =>
    refine congrArg Except.ok ?_
    rw [underOptions, List.find?_append]
    refine (congrArg _ (List.find?_eq_none.mpr fun entry inside => ?_)).trans Option.or_none
    obtain ⟨default, -, rfl⟩ := List.mem_map.mp inside
    exact Bool.false_ne_true

end Call

/-! ## Part 2 — readings -/

/-- A frame that hands options down adds no namespace. -/
theorem Scopes.controllerNamespaces_withOptions (defaults : Assoc String Value) (outer : Scopes) :
    controllerNamespaces (.withOptions defaults :: outer) = outer.controllerNamespaces := by
  rw [controllerNamespaces_cons]
  exact List.append_nil _

section Readings

variable (outer defaults : Assoc String Value) (call : Call)

/-- What is read of a root with defaults. -/
theorem RootReading.ofCall_withDefaults :
    ofCall outer (call.withDefaults defaults) =
      ofCall (outer.merge (.ofEntries defaults)) call := by
  refine (call.keywordOptions_withDefaults defaults).bind_eq fun own merged written => ?_
  have target : targetOf (outer.merge merged) (call.withDefaults defaults) =
      targetOf ((outer.merge (.ofEntries defaults)).merge own) call := by
    rw [targetOf, targetOf, written.value]
    rfl
  dsimp only
  rw [target, written.value, written.value, written.value]

/-- What is read of a verb or a named route with defaults: only whether a controller is its own can
be told. -/
theorem DirectReading.ofCall_withDefaults :
    ofCall outer (call.withDefaults defaults) =
      (ofCall (outer.merge (.ofEntries defaults)) call).map fun reading =>
        { reading with ownController :=
            reading.ownController || Assoc.contains (.ofEntries defaults) "controller" } := by
  have read := call.keywordOptions_withDefaults defaults
  unfold ofCall
  rw [call.mapping?_withDefaults]
  generalize call.keywordOptions = own at *
  generalize (call.withDefaults defaults).keywordOptions = merged at *
  cases read with
  | fault => rfl
  | read written =>
    cases call.mapping? with
    | error fault => rfl
    | ok mapping =>
      simp only [bind, Except.bind, pure, Except.pure, Except.map, written.value, written.contains]
      rfl

/-- What is read of a resource declaration with defaults. -/
theorem ResourceDeclaration.ofCall_withDefaults (scopes : Scopes) :
    ofCall scopes (call.withDefaults defaults) =
      ofCall (.withOptions (.ofEntries defaults) :: scopes) call := by
  rw [ofCall_eq, ofCall_eq]
  refine (call.keywordOptions_withDefaults defaults).bind_eq fun own merged written => ?_
  have same (names : List String) : ofOptions scopes names (scopes.resourceDefaults.merge merged) =
      ofOptions (.withOptions (.ofEntries defaults) :: scopes) names
        ((scopes.resourceDefaults.merge (.ofEntries defaults)).merge own) := by
    simp only [ofOptions, Scopes.controllersOf, Scopes.controllerOf?,
      Scopes.controllerNamespaces_withOptions, written.value]
  simp only [same]
  rfl

end Readings

/-! ## Part 3 — paths that lead to every controller -/

/-- Whether a path leads to every controller, and neither a target nor a controller is named. -/
def DirectReading.isBareCatchAll (reading : DirectReading) : Bool :=
  reading.target = .unnamed && !reading.ownController && RoutePath.isCatchAll reading.path

/-- **The call has a bare path that leads to every controller**: nothing that it writes itself names
a target or a controller. -/
def Call.isBareCatchAll (call : Call) : Bool :=
  match DirectReading.ofCall [] call with
  | .ok reading => reading.isBareCatchAll
  | .error _ => false

namespace DirectReading

/-- An option that is not given over defaults is not given without them. -/
theorem unnamed_of_merge {defaults own : Assoc String Value} {name : String}
    (unnamed : Target.ofValue (optionValue (defaults.merge own) name) = .unnamed) :
    Target.ofValue (optionValue (Assoc.merge [] own) name) = .unnamed := by
  rw [optionValue, Assoc.get?_merge] at *
  cases written : Assoc.get? own.reverse name with
  | none => rfl
  | some value => rwa [written] at unnamed

/-- Defaults do not make a path bare. -/
theorem isBareCatchAll_of_defaults {defaults : Assoc String Value} {call : Call}
    {reading : DirectReading} (read : ofCall defaults call = .ok reading)
    (bare : reading.isBareCatchAll) : call.isBareCatchAll := by
  unfold Call.isBareCatchAll
  unfold ofCall at *
  cases written : call.keywordOptions with
  | error fault =>
    rw [written] at read
    cases read
  | ok own =>
    cases mapped : call.mapping? with
    | error fault =>
      rw [written, mapped] at read
      cases read
    | ok mapping =>
      rw [written, mapped] at read
      obtain rfl := Except.ok.inj read
      simp only [isBareCatchAll, Bool.and_eq_true, decide_eq_true_eq] at bare
      obtain ⟨⟨unnamed, own⟩, catchAll⟩ := bare
      show isBareCatchAll _ = true
      simp only [isBareCatchAll, Bool.and_eq_true, decide_eq_true_eq]
      refine ⟨⟨?_, own⟩, catchAll⟩
      cases mapping with
      | none => exact unnamed_of_merge unnamed
      | some mapped => exact unnamed

/-- Whether a controller is the call's own matters for a bare path alone. -/
theorem names_ownController {reading : DirectReading} (pathed : reading.isBareCatchAll = false)
    (legacy further : Bool) :
    names { reading with ownController := reading.ownController || further } legacy =
      reading.names legacy := by
  unfold names
  cases target : reading.target with
  | unnamed =>
    dsimp only
    cases named : reading.ownController with
    | true => rfl
    | false =>
      have path : RoutePath.isCatchAll reading.path = false := by
        simpa [isBareCatchAll, target, named] using pathed
      simp [path]
  | skipped | full | bare => rfl

end DirectReading

/-! ## Part 4 — flat calls -/

section Routes

variable (defaults : Assoc String Value) {call : Call} (scopes : Scopes)

/-- A direct route with defaults leads where it does inside the options, unless its path is bare. -/
theorem directRoute_withDefaults (pathed : call.isBareCatchAll = false) (legacy : Bool) :
    directRoute scopes legacy (call.withDefaults defaults) =
      directRoute (.withOptions (.ofEntries defaults) :: scopes) legacy call := by
  rw [directRoute_eq, directRoute_eq, DirectReading.ofCall_withDefaults, Scopes.defaults_cons,
    Scopes.controllerNamespaces_withOptions, Frame.defaults]
  cases read : DirectReading.ofCall (scopes.defaults.merge (.ofEntries defaults)) call with
  | error fault => rfl
  | ok reading =>
    have clear : reading.isBareCatchAll = false := Bool.eq_false_iff.mpr fun bare =>
      Bool.eq_false_iff.mp pathed (DirectReading.isBareCatchAll_of_defaults read bare)
    simp only [Except.map, DirectReading.naming, DirectReading.names_ownController clear]

/-- A bare path is passed over inside the options, and leads somewhere with a controller written at
it. -/
example :
    let connect : Call := ⟨"connect", 1, none, some [.text ":controller/:action"], some [], none⟩
    let defaults : Assoc String Value := [("controller", .text "pages")]
    connect.isBareCatchAll ∧
      directRoute [.withOptions defaults] true connect =
        .ok (.skipped (.defaultRoute ":controller/:action")) ∧
      directRoute [] true (connect.withDefaults defaults) = .ok (.route ⟨⟨[], "Pages"⟩, "*"⟩) := by
  decide +kernel

/-- A root with defaults leads where it does inside the options. -/
theorem rootRoute_withDefaults :
    rootRoute scopes (call.withDefaults defaults) =
      rootRoute (.withOptions (.ofEntries defaults) :: scopes) call := by
  rw [rootRoute_eq, rootRoute_eq, RootReading.ofCall_withDefaults, Scopes.defaults_cons,
    Scopes.controllerNamespaces_withOptions]
  rfl

end Routes

/-- **The call declares its routes by itself**: a resource without a block, a root, or a verb or a
named route of which the path is not bare. -/
inductive Call.IsFlat (parameters : List String) (call : Call) : Prop
  | ofResource {kind : ResourceKind} (word : ResourceKind.ofWord? call.name = some kind)
      (plain : call.block = none)
  | ofRoot (word : call.name = "root")
  | ofVerb (verb : call.isVerb) (pathed : call.isBareCatchAll = false)
  | ofNamed (undecided : call.wordForm? false = none) (named : call.isNamedRoute parameters)
      (pathed : call.isBareCatchAll = false)

/-- The surroundings inside a block of options. -/
def Surroundings.withOptions (defaults : Assoc String Value) (around : Surroundings) :
    Surroundings :=
  { around with scopes := .withOptions (.ofEntries defaults) :: around.scopes }

namespace Contribution

section Outside

variable {around : Surroundings} (closed : around.grouping = none) (call : Call)
include closed

/-- Outside of resource blocks a verb contributes its direct route. -/
theorem ofCall_verb_outside (verb : call.isVerb) :
    ofCall around call =
      ofOutcome call.line (directRoute around.scopes (call.name = Call.legacyVerb) call) := by
  have nameless : call.addedName? around = none := by rw [Call.addedName?, closed]
  rw [ofCall_verb (Call.form_of_isVerb verb), ofVerb, nameless]

/-- Outside of resource blocks a named route contributes its direct route. -/
theorem ofCall_named_outside (undecided : call.wordForm? false = none)
    (named : call.isNamedRoute around.parameters) :
    ofCall around call = ofOutcome call.line (directRoute around.scopes true call) := by
  have still : call.wordForm? around.grouping.isSome = none := by rwa [closed]
  exact ofCall_named (Call.form_named still named)

end Outside

variable (defaults : Assoc String Value) {around : Surroundings} (closed : around.grouping = none)
include closed

/-- **A flat call with defaults contributes what it does inside the options.** -/
theorem ofCall_withDefaults {call : Call} (flat : call.IsFlat around.parameters) :
    ofCall around (call.withDefaults defaults) = ofCall (around.withOptions defaults) call := by
  have inside : (around.withOptions defaults).grouping = none := closed
  cases flat with
  | ofResource word plain =>
    have same := ResourceDeclaration.ofCall_withDefaults defaults call around.scopes
    have bare : (call.withDefaults defaults).block = none := plain
    cases read : ResourceDeclaration.ofCall (around.withOptions defaults).scopes call with
    | error fault =>
      rw [ofCall_unread around (call.withDefaults defaults) word (same.trans read),
        ofCall_unread (around.withOptions defaults) call word read]
    | ok declaration =>
      rw [ofCall_declared around (call.withDefaults defaults) word bare (same.trans read),
        ofCall_declared (around.withOptions defaults) call word plain read]
      rfl
  | ofRoot word =>
    have written : ofCall around (call.withDefaults defaults) =
        ofOutcome call.line (rootRoute around.scopes (call.withDefaults defaults)) :=
      ofCall_root (Call.form_of_root word)
    have inherited : ofCall (around.withOptions defaults) call =
        ofOutcome call.line (rootRoute (around.withOptions defaults).scopes call) :=
      ofCall_root (Call.form_of_root word)
    rw [written, rootRoute_withDefaults, inherited]
    rfl
  | ofVerb verb pathed =>
    rw [ofCall_verb_outside closed (call.withDefaults defaults) verb,
      directRoute_withDefaults defaults around.scopes pathed]
    exact (ofCall_verb_outside inside call verb).symm
  | ofNamed undecided named pathed =>
    rw [ofCall_named_outside closed (call.withDefaults defaults) undecided named,
      directRoute_withDefaults defaults around.scopes pathed]
    exact (ofCall_named_outside inside call undecided named).symm

/-- Flat calls with defaults contribute what they do inside the options. -/
theorem ofStatements_withDefaults {calls : List Call}
    (flat : ∀ call ∈ calls, call.IsFlat around.parameters) :
    ofStatements around (calls.map fun call => .call (call.withDefaults defaults)) =
      ofStatements (around.withOptions defaults) (calls.map .call) := by
  induction calls with
  | nil => rfl
  | cons call rest ih =>
    obtain ⟨first, others⟩ := List.forall_mem_cons.mp flat
    rw [List.map_cons, List.map_cons, ofStatements, ofStatements, ih others,
      ofCall_withDefaults defaults closed first]

end Contribution

namespace Recognizer

/-- **Options around calls are an abbreviation.** From every state without an open resource, in all
frames: a block of options around flat calls lists the routes, in the same order, that a call of an
unknown name lists with the same parameters and with the options written at each of the calls, where
the call does not write them itself. -/
theorem walk_inlined {defaults : Assoc String Value} {parameters : List String} {calls : List Call}
    {opener label : Call} {state : Recognizer} (closed : state.resources = [])
    (flat : ∀ call ∈ calls, call.IsFlat (parameters ++ state.parameters))
    (word : opener.name = "with_options") (options : opener.options = some (symbolEntries defaults))
    (given : opener.block = some ⟨some parameters, some (calls.map .call)⟩)
    (unknown : label.name ∉ Call.knownNames)
    (unnamed : label.isNamedRoute state.parameters = false)
    (written : label.block = some ⟨some parameters,
      some (calls.map fun call => .call (call.withDefaults defaults))⟩) :
    (walk [.call label] state).registry = (walk [.call opener] state).registry := by
  have alone : state.surroundings.grouping = none := by
    rw [surroundings, closed]
    rfl
  have opens : opener.frame? = .ok (some (.withOptions (.ofEntries defaults))) :=
    Call.frame?_withOptions (Call.keywordOptions_symbolEntries options) word
  have plain : label.form state.surroundings = .unknown :=
    Call.form_unknown (Call.wordForm?_unknown unknown _) unnamed
  -- the calls stand in the same block on both sides, in the frame on one of them
  let around : Surroundings :=
    { state.surroundings with parameters := parameters ++ state.parameters }
  have inside : Contribution.ofCall state.surroundings opener =
      Contribution.ofStatements (around.withOptions defaults) (calls.map .call) := by
    rw [Contribution.ofCall_opens state.surroundings given (by simp [Call.namesFrame, word]) opens]
    rfl
  have outside : Contribution.ofCall state.surroundings label = Contribution.ofStatements around
      (calls.map fun call => .call (call.withDefaults defaults)) := by
    rw [Contribution.ofCall_unknown plain, Contribution.bodyOf, written]
    rfl
  have same : Contribution.ofStatements state.surroundings [.call label] =
      Contribution.ofStatements state.surroundings [.call opener] := by
    rw [Contribution.ofStatements_single, Contribution.ofStatements_single, inside, outside]
    exact Contribution.ofStatements_withDefaults defaults (show around.grouping = none from alone)
      flat
  exact (walk_congr rfl rfl rfl same).1

/-- A call of each kind, in a scope with a controller, in further options and in a namespace; two of
the calls write themselves what the options hand down. -/
theorem walk_inlined_frames :
    let defaults : Assoc String Value := [("controller", .text "pages"), ("module", .text "web"),
      ("only", .array [.symbol "index", .symbol "show"])]
    let posts : Call := ⟨"resources", 2, none, some [.symbol "posts"],
      some [(.symbol "controller", .text "articles")], none⟩
    let about : Call := ⟨"get", 3, none, some [.text "/about"], some [], none⟩
    let help : Call := ⟨"help", 4, some (.atom (.identifier "site")), some [.text "/help"],
      some [(.symbol "action", .text "help"), (.symbol "module", .text "desk")], none⟩
    let home : Call := ⟨"root", 5, none, some [], some [], none⟩
    let calls : List Call := [posts, about, help, home]
    let opener : Call := ⟨"with_options", 1, none, some [], some (symbolEntries defaults),
      some ⟨some ["site"], some (calls.map .call)⟩⟩
    let label : Call := ⟨"site", 1, none, some [], some [],
      some ⟨some ["site"], some (calls.map fun call => .call (call.withDefaults defaults))⟩⟩
    let state : Recognizer :=
      { scopes := [.scoped (some "shop") (.text "carts"), .withOptions [("action", .text "list")],
          .namespaced "admin"] }
    (∀ call ∈ calls, call.IsFlat ["site"]) ∧
      (emitted [.call opener] state).map (·.text) =
        ["Admin::Shop::Web::ArticlesController#index", "Admin::Shop::Web::ArticlesController#show",
          "Admin::Shop::Web::PagesController#list", "Admin::Shop::Desk::PagesController#help",
          "Admin::Shop::Web::PagesController#list"] ∧
      (walk [.call label] state).registry = (walk [.call opener] state).registry := by
  intro defaults posts about help home calls opener label state
  have flat : ∀ call ∈ calls, call.IsFlat (["site"] ++ state.parameters) := by
    simp only [calls, List.forall_mem_cons]
    exact ⟨.ofResource rfl rfl, .ofVerb (by decide) (by decide +kernel),
      .ofNamed (by decide) (by decide) (by decide +kernel), .ofRoot rfl, nofun⟩
  exact ⟨flat, by decide +kernel,
    walk_inlined rfl flat rfl rfl rfl (by decide) (by decide) rfl⟩

end Recognizer

end RouteTable
