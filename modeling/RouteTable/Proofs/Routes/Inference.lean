/-
**Names that are inferred from a path.**

Where a call names neither a target nor an action, its action is inferred from its path: in a
resource block it is a path of one segment, with a controller it is `*` for a path with `:action`,
`index` in the older dialect and the last segment otherwise. Where no controller is named either,
the segments before the last one are the controller. All of these readings look for placeholders at
the front of a segment, and only the last one looks for groups. So a mark further back, as in
`(:locale)` or `show(.:format)`, can get into a name. Nothing else lets one in.

* `segments_of_bareAction?`, `splitPath?_spec`, `defaultAction?_cases`: what a path is read for;
* `camelizeSegments_static`: camel case brings no mark into a controller;
* `directRoute_inferred`, `extensionAction?_inferred`: what a call is read for;
* `dispatch_inferred`: actions and controllers that are inferred are static.
-/

import RouteTable.Proofs.Assoc
import RouteTable.Proofs.Compare.Options
import RouteTable.Proofs.Routes.Controller
import RouteTable.Proofs.Routes.Segment
import RouteTable.Proofs.Walk.Every
import RouteTable.Proofs.Walk.Reading

namespace RouteTable

/-! ## Part 1 — segments with and without marks -/

/-- The characters of placeholders and of optional groups. -/
def pathMarks : List Char := [':', '*', '(', ')']

/-- A text in which nothing is filled in and nothing is optional. -/
def IsStatic (text : String) : Prop := ∀ mark ∈ pathMarks, mark ∉ text.toList

instance (text : String) : Decidable (IsStatic text) :=
  decidable_of_iff (pathMarks.all fun mark => mark ∉ text.toList) <| by
    simp only [IsStatic, List.all_eq_true, decide_eq_true_eq]

namespace RoutePath

/-- A segment that is a placeholder or else static, so that its first character tells which. -/
def IsUniform (segment : String) : Prop := isDynamic segment = true ∨ IsStatic segment

instance (segment : String) : Decidable (IsUniform segment) :=
  inferInstanceAs (Decidable (_ ∨ _))

theorem IsUniform.isStatic {segment : String} (uniform : IsUniform segment)
    (plain : isDynamic segment = false) : IsStatic segment := by
  refine uniform.resolve_left ?_
  rw [plain]
  exact Bool.false_ne_true

/-! ## Part 2 — what a path is read for -/

/-- A path that is a bare name has that one segment. -/
theorem segments_of_bareAction? {path action : String} (bare : bareAction? path = some action) :
    segments path = [action] ∧ isDynamic action = false := by
  unfold bareAction? at bare
  dsimp only at bare
  split at bare
  · cases bare
  · next kept =>
    obtain rfl := Option.some.inj bare
    simp only [Bool.or_eq_true, decide_eq_true_eq, not_or, Bool.not_eq_true] at kept
    obtain ⟨⟨written, one⟩, plain⟩ := kept
    rw [String.toList_ofList] at one
    have clean : ∀ char ∈ Text.strip (· = '/') path.toList, decide (char = '/') = false := by
      intro char inside
      have other : char ≠ '/' := fun slash => one (slash ▸ inside)
      simpa using other
    have some : Text.strip (· = '/') path.toList ≠ [] := by
      simpa using written
    refine ⟨?_, plain⟩
    rw [segments, ← Text.words_strip, Text.words_of_clean clean some]
    rfl

/-- A path that suggests names has no dynamic segment and no group in it. -/
theorem splitPath?_spec {path : String} {names : String × String}
    (split : splitPath? path = some names) :
    (segments path).getLast? = some names.2 ∧
      names.1 = "/".intercalate (segments path).dropLast ∧
      ∀ segment ∈ segments path, isDynamic segment = false ∧ '(' ∉ segment.toList := by
  unfold splitPath? at split
  dsimp only at split
  split at split
  · cases split
  · next kept =>
    obtain ⟨action, last, rfl⟩ := Option.map_eq_some_iff.mp split
    simp only [Bool.or_eq_true, not_or, List.any_eq_true, not_exists, not_and,
      decide_eq_true_eq, Bool.not_eq_true] at kept
    exact ⟨last, rfl, kept.2⟩

/-- The action of a path without one is every action, `index` in the older dialect, or the last
segment if that is not dynamic. -/
theorem defaultAction?_cases {path action : String} {legacy : Bool}
    (inferred : defaultAction? path legacy = some action) :
    action = Endpoint.wildcard ∨ (legacy = true ∧ action = "index") ∨
      (legacy = false ∧ (segments path).getLast? = some action ∧ isDynamic action = false) := by
  unfold defaultAction? at inferred
  split at inferred
  · exact .inl (Option.some.inj inferred).symm
  · split at inferred
    · next older => exact .inr (.inl ⟨older, (Option.some.inj inferred).symm⟩)
    · next younger =>
      obtain ⟨last, plain⟩ := Option.filter_eq_some_iff.mp inferred
      exact .inr (.inr ⟨by simpa using younger, last, by simpa using plain⟩)

end RoutePath

/-! ## Part 3 — segments of controllers -/

/-- The controller stands in outer namespaces, and all inside of them is static. -/
def ControllerId.IsStaticIn (outer : List String) (controller : ControllerId) : Prop :=
  ∃ inner, controller.segments = outer ++ inner ∧ ∀ segment ∈ inner, IsStatic segment

/-- Static texts are static with slashes between them. -/
theorem IsStatic.intercalate {parts : List String} (each : ∀ part ∈ parts, IsStatic part) :
    IsStatic ("/".intercalate parts) := by
  intro mark listed inside
  by_cases none : parts = []
  · subst none
    cases inside
  · have cuts : Text.Cuts (· = '/') ("/".toList.intercalate (parts.map String.toList))
        (parts.map String.toList) :=
      Text.cuts_intercalate (by decide) (by simp) (mt List.map_eq_nil_iff.mp none)
    rw [String.toList_intercalate] at inside
    rcases cuts.mem_part inside with slash | ⟨part, among, within⟩
    · have apart : '/' ∉ pathMarks := by decide
      exact apart (of_decide_eq_true slash ▸ listed)
    · obtain ⟨part, found, rfl⟩ := List.mem_map.mp among
      exact each part found mark listed within

/-- The segments of a static name are static. -/
theorem camelizeSegments_static {name segment : String} (static : IsStatic name)
    (listed : segment ∈ camelizeSegments name) : IsStatic segment := by
  have named : ∀ mark ∈ pathMarks, mark ∈ nameMarks := by simp [pathMarks, nameMarks]
  obtain ⟨piece, kept, rfl⟩ := List.mem_map.mp listed
  have found := (List.mem_filter.mp kept).1
  intro mark among inside
  rw [String.toList_ofList, camelizeChars_eq] at inside
  have written := (mark_of_mem_camelizeFrom (named mark among) inside).1
  exact static mark among ((cuts_pathPieces name.toList).mem_of_mem_part found written)

/-- The controller that a path suggests is static if the segments before the last one are uniform,
or else have a group that keeps the path from suggesting anything. -/
theorem RoutePath.splitPath?_static {path : String} {names : String × String}
    (split : splitPath? path = some names)
    (uniform : ∀ segment ∈ (segments path).dropLast, IsUniform segment ∨ '(' ∈ segment.toList) :
    IsStatic names.1 := by
  obtain ⟨-, before, plain⟩ := splitPath?_spec split
  rw [before]
  refine IsStatic.intercalate fun segment among => ?_
  obtain ⟨still, ungrouped⟩ := plain segment (List.dropLast_subset _ among)
  have alike := (uniform segment among).resolve_right ungrouped
  exact alike.isStatic still

/-! ## Part 4 — calls that name no action -/

namespace Call

/-- The value of an option of a call inside frames. There is none if the options cannot be read. -/
def valueIn (scopes : Scopes) (call : Call) (name : String) : Value :=
  match call.keywordOptions with
  | .ok own => optionValue (scopes.defaults.merge own) name
  | .error _ => .nothing

/-- The action of a call with this path is left to be inferred: nothing is mapped, and neither the
call nor a frame around it gives a target or the name of an action. -/
structure Infers (scopes : Scopes) (call : Call) (path : String) : Prop where
  path : call.firstLiteral? = some path
  unmapped : ∀ entry, call.mapping? ≠ .ok (some entry)
  untargeted : call.valueIn scopes "to" = .nothing
  unnamed : (call.valueIn scopes "action").literal? = none

/-- The default action of the call is `index`. -/
def IsLegacy (call : Call) (around : Surroundings) : Prop :=
  call.name = legacyVerb ∨ call.form around = .named

/-- The last segment of a path is read for the action by itself, and not with those before it: in a
resource block, and for a controller that is known where the default is not `index`. -/
def ReadsLast (call : Call) (around : Surroundings) : Prop :=
  around.grouping.isSome ∨
    ((call.valueIn around.scopes "controller").literal?.isSome ∧ ¬call.IsLegacy around)

variable {scopes : Scopes} {call : Call} {own : Assoc String Value}

theorem valueIn_of_read (read : call.keywordOptions = .ok own) (name : String) :
    call.valueIn scopes name = optionValue (scopes.defaults.merge own) name := by
  rw [valueIn, read]

/-- What a call says itself wins over what the frames hand down, so where there is no literal inside
the frames the call has none. -/
theorem literal?_own (read : call.keywordOptions = .ok own) {name : String}
    (unnamed : (call.valueIn scopes name).literal? = none) :
    (optionValue own name).literal? = none := by
  rw [valueIn_of_read read] at unnamed
  rw [keywordOptions_eq] at read
  split at read
  · cases read
  · obtain rfl := Except.ok.inj read
    rw [optionValue, Assoc.get?_merge_ofEntries, ← Assoc.get?_ofEntries] at unnamed
    rw [optionValue]
    generalize Assoc.get? (Assoc.ofEntries _) name = given at unnamed ⊢
    cases given with
    | none => rfl
    | some value => exact unnamed

end Call

section Readings

variable {scopes : Scopes} {call : Call} {path : String} {legacy : Bool}

/-- Without a target and an action, the path gives both names or the action. -/
theorem DirectReading.names_inferred {reading : DirectReading} {names : String × String}
    (target : reading.target = .unnamed) (unnamed : reading.action = none)
    (read : reading.names legacy = .ok names) :
    (reading.controller = none ∧ RoutePath.splitPath? reading.path = some names) ∨
      (reading.controller = some names.1 ∧
        RoutePath.defaultAction? reading.path legacy = some names.2) := by
  rw [DirectReading.names, target, unnamed] at read
  dsimp only at read
  split at read
  · cases read
  · split at read
    · cases read
    · obtain ⟨known, -, chosen, -⟩ := complete_ok read
      cases given : reading.controller with
      | none =>
        rw [given] at known chosen
        simp only [Option.isNone_none, Bool.and_self, if_true, Option.none_or] at known chosen
        obtain ⟨suggested, split, first⟩ := Option.map_eq_some_iff.mp known
        rw [split, Option.map_some, Option.some_or] at chosen
        have second := Option.some.inj chosen
        exact .inl ⟨rfl, split.trans (congrArg some (Prod.ext first second))⟩
      | some controller =>
        rw [given] at known chosen
        exact .inr ⟨known, by simpa using chosen⟩

/-- What is read of a call that leaves its action to be inferred. -/
theorem DirectReading.ofCall_inferred {reading : DirectReading}
    (inferred : call.Infers scopes path) (read : ofCall scopes.defaults call = .ok reading) :
    reading.path = path ∧ reading.target = .unnamed ∧ reading.action = none ∧
      reading.controller = (call.valueIn scopes "controller").literal? ∧
      reading.module = (call.valueIn scopes "module").literal? := by
  obtain ⟨own, mapping, options, mapped, named, target, controller, action, module⟩ :=
    ofCall_ok read
  have untargeted := inferred.untargeted
  have unnamed := inferred.unnamed
  rw [Call.valueIn_of_read options] at untargeted unnamed
  rw [Call.valueIn_of_read options, Call.valueIn_of_read options]
  cases mapping with
  | some entry => exact absurd mapped (inferred.unmapped entry)
  | none =>
    refine ⟨named.trans ?_, target.trans ?_, action.trans unnamed, controller, module⟩
    · dsimp only
      rw [inferred.path, Option.getD_some]
    · dsimp only
      rw [untargeted]
      rfl

/-- Where a call leads that leaves its action to be inferred: to the names that its path suggests if
no controller is known, and else to the default action of the controller. -/
theorem directRoute_inferred {endpoint : Endpoint} (inferred : call.Infers scopes path)
    (leads : directRoute scopes legacy call = .ok (.route endpoint)) :
    ∃ controller,
      endpoint.controller.segments = scopes.controllerNamespaces ++
        camelizeSegments ((call.valueIn scopes "module").literal?.getD "") ++
          camelizeSegments controller ∧
      (((call.valueIn scopes "controller").literal? = none ∧
          RoutePath.splitPath? path = some (controller, endpoint.action)) ∨
        ((call.valueIn scopes "controller").literal? = some controller ∧
          RoutePath.defaultAction? path legacy = some endpoint.action)) := by
  obtain ⟨reading, controller, read, named, placed⟩ := directRoute_route leads
  obtain ⟨rfl, target, unnamed, given, module⟩ := DirectReading.ofCall_inferred inferred read
  rw [module] at placed
  refine ⟨controller, ControllerId.ofName?_segments placed, ?_⟩
  rw [← given]
  exact DirectReading.names_inferred target unnamed named

/-- A name that a call adds is its path, if the call leaves its action to be inferred. -/
theorem extensionAction?_inferred {action : String} (inferred : call.Infers scopes path)
    (added : extensionAction? call = .ok (some action)) : bareAction? path = some action := by
  rw [extensionAction?_eq] at added
  cases read : call.keywordOptions with
  | error fault =>
    rw [read] at added
    cases added
  | ok own =>
    cases mapped : call.mapping? with
    | error fault =>
      rw [read, mapped] at added
      cases added
    | ok mapping =>
      cases mapping with
      | some entry => exact absurd mapped (inferred.unmapped entry)
      | none =>
        rw [read, mapped] at added
        have chosen := Except.ok.inj added
        split at chosen
        · cases chosen
        · dsimp only at chosen
          rwa [Call.literal?_own read inferred.unnamed, inferred.path, Option.filter_none,
            Option.none_or, Option.getD_some] at chosen

end Readings

/-! ## Part 5 — what is declared -/

/-- A direct route declares what it leads to. -/
theorem Contribution.Has.ofOutcome {controller : ControllerId → Prop} {action : String → Prop}
    {found : Except ShapeFault Outcome}
    (each : ∀ endpoint, found = .ok (.route endpoint) → endpoint.Has controller action)
    (line : Int) : (Contribution.ofOutcome line found).Has controller action := by
  unfold Contribution.ofOutcome
  split
  · next endpoint => exact .ofEndpoints (by simpa using each endpoint rfl) line
  · exact .empty

namespace Contribution

variable {around : Surroundings} {call : Call}

/-- A verb or a named route has the properties that the name it adds and the endpoint it leads to
have. -/
theorem Has.ofDirect {controller : ControllerId → Prop} {action : String → Prop}
    (form : call.isVerb ∨ call.form around = .named)
    (added : ∀ name, around.grouping.isSome → extensionAction? call = .ok (some name) → action name)
    (direct : ∀ legacy endpoint, (legacy = true ↔ call.IsLegacy around) →
      directRoute around.scopes legacy call = .ok (.route endpoint) →
        endpoint.Has controller action) :
    (ofCall around call).Has controller action := by
  rcases form with verb | named
  · have read : call.form around = .verb := Call.form_of_isVerb verb
    rw [ofCall_verb read, ofVerb]
    cases found : call.addedName? around with
    | some entry =>
      obtain ⟨inside, bare⟩ := Call.addedName?_some found
      exact .ofName (added entry.2 inside bare) entry.1
    | none =>
      have older : decide (call.name = Call.legacyVerb) = true ↔ call.IsLegacy around := by
        rw [decide_eq_true_iff, Call.IsLegacy, read]
        simp
      exact .ofOutcome (fun endpoint => direct _ endpoint older) call.line
  · rw [ofCall_named named]
    exact .ofOutcome (fun endpoint => direct true endpoint (iff_of_true rfl (.inr named))) call.line

end Contribution

namespace Recognizer

/-- **Names that are inferred from a path are static.** From every state, for every verb and every
named route that leaves its action to be inferred from a path. If the last segment of the path is
uniform, or has a group that is looked for, then each action that is declared or added to a resource
is the wildcard, or `index` in the older dialect, or the last segment, and then it is static. And if
no controller is named and each other segment is uniform or has a group, then the segments of each
controller are those of the frames and of the module, followed by static ones. -/
theorem dispatch_inferred {call : Call} {state : Recognizer} {path : String}
    (form : call.isVerb ∨ call.form state.surroundings = .named)
    (inferred : call.Infers state.scopes path) :
    ∃ added, Adds added state (dispatch call state).1 ∧
      ((∀ last ∈ (RoutePath.segments path).getLast?, RoutePath.IsUniform last ∨
          ('(' ∈ last.toList ∧ ¬call.ReadsLast state.surroundings)) →
        added.Has (fun _ => True) fun action =>
          action = Endpoint.wildcard ∨ (call.IsLegacy state.surroundings ∧ action = "index") ∨
            ((RoutePath.segments path).getLast? = some action ∧ IsStatic action)) ∧
      ((∀ segment ∈ (RoutePath.segments path).dropLast,
          RoutePath.IsUniform segment ∨ '(' ∈ segment.toList) →
        (call.valueIn state.scopes "controller").literal? = none →
        added.Has (ControllerId.IsStaticIn (state.scopes.controllerNamespaces ++
          camelizeSegments ((call.valueIn state.scopes "module").literal?.getD ""))) fun _ =>
            True) := by
  refine ⟨_, dispatch_adds call state, ?_, ?_⟩
  · intro uniform
    refine Contribution.Has.ofDirect form ?_ ?_
    · -- a name that is added is the one segment of the path, so it is the last one
      intro name inside added
      obtain ⟨only, plain⟩ :=
        RoutePath.segments_of_bareAction? (extensionAction?_inferred inferred added)
      have last : (RoutePath.segments path).getLast? = some name := by
        rw [only]
        rfl
      have alike := (uniform name last).resolve_right fun grouped => grouped.2 (.inl inside)
      exact .inr (.inr ⟨last, alike.isStatic plain⟩)
    · intro legacy endpoint older leads
      refine ⟨trivial, ?_⟩
      obtain ⟨controller, -, ⟨-, split⟩ | ⟨known, default⟩⟩ := directRoute_inferred inferred leads
      · -- the reading for both names has looked for groups itself
        obtain ⟨last, -, plain⟩ := RoutePath.splitPath?_spec split
        obtain ⟨still, ungrouped⟩ := plain _ (List.mem_of_getLast? last)
        have alike := (uniform _ last).resolve_right fun grouped => ungrouped grouped.1
        exact .inr (.inr ⟨last, alike.isStatic still⟩)
      · rcases RoutePath.defaultAction?_cases default with
          every | ⟨index, first⟩ | ⟨younger, last, still⟩
        · exact .inl every
        · exact .inr (.inl ⟨older.mp index, first⟩)
        · have reads : call.ReadsLast state.surroundings := by
            refine .inr ⟨?_, fun same => ?_⟩
            · exact known ▸ rfl
            · rw [older.mpr same] at younger
              cases younger
          have alike := (uniform _ last).resolve_right fun grouped => grouped.2 reads
          exact .inr (.inr ⟨last, alike.isStatic still⟩)
  · intro uniform unnamed
    refine Contribution.Has.ofDirect form (fun _ _ _ => trivial) ?_
    intro legacy endpoint _ leads
    refine ⟨?_, trivial⟩
    obtain ⟨controller, segments, ⟨-, split⟩ | ⟨known, -⟩⟩ := directRoute_inferred inferred leads
    · have static := RoutePath.splitPath?_static split uniform
      exact ⟨_, segments, fun segment => camelizeSegments_static static⟩
    · rw [unnamed] at known
      cases known

/-- A verb with nothing but a path: in a namespace, under a module and in the block of a
resource. -/
theorem dispatch_inferred_namespace :
    let path := "/admin/blog_posts/archive/"
    let get : Call := ⟨"get", 4, none, some [.text path], some [], none⟩
    let state : Recognizer := {
      scopes := [.withOptions [("module", .text "api")], .namespaced "shop"]
      resources := [⟨[], [], [], .collection⟩] }
    get.isVerb ∧ get.Infers state.scopes path ∧
      (dispatch get state).1.registry.toList.map (·.text) =
        ["Shop::Api::Admin::BlogPostsController#archive"] ∧
      ∃ added, Adds added state (dispatch get state).1 ∧
        (added.Has (fun _ => True) fun action =>
          action = Endpoint.wildcard ∨ (get.IsLegacy state.surroundings ∧ action = "index") ∨
            ((RoutePath.segments path).getLast? = some action ∧ IsStatic action)) ∧
        added.Has (ControllerId.IsStaticIn ["Shop", "Api"]) fun _ => True := by
  intro path get state
  have verb : get.isVerb := by decide
  have inferred : get.Infers state.scopes path := by
    refine ⟨rfl, ?_, rfl, rfl⟩
    intro entry mapped
    cases mapped
  have uniform : ∀ segment ∈ RoutePath.segments path, RoutePath.IsUniform segment := by
    decide +kernel
  have outer : state.scopes.controllerNamespaces ++
      camelizeSegments ((get.valueIn state.scopes "module").literal?.getD "") =
        ["Shop", "Api"] := by
    decide +kernel
  obtain ⟨added, adds, actions, controllers⟩ := dispatch_inferred (.inl verb) inferred
  rw [outer] at controllers
  refine ⟨verb, inferred, by decide +kernel, added, adds, ?_, ?_⟩
  · exact actions fun last found => .inl (uniform last (List.mem_of_getLast? found))
  · refine controllers (fun segment among => .inl ?_) rfl
    exact uniform segment (List.dropLast_subset _ among)

/-- A path that is an optional group, and one that ends in such a group: what is filled in by the
request becomes the action of a controller that is named, and of a resource. -/
theorem process_optional_segment :
    let home : Call :=
      ⟨"get", 1, none, some [.text "(:locale)"], some [(.symbol "controller", .text "home")], none⟩
    let archive : Call := ⟨"get", 3, none, some [.text "archive(.:format)"], some [], none⟩
    let posts : Call := ⟨"resources", 2, none, some [.symbol "posts"],
      some [(.symbol "only", .array [])], some ⟨some [], some [.call archive]⟩⟩
    (process none [.call home, .call posts] {}).1.map (·.text) =
      ["HomeController#(:locale)", "PostsController#archive(.:format)"] := by
  decide +kernel

end Recognizer

end RouteTable
