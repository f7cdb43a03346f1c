/-
**Controllers of routes are well formed.**

The controller of a route is put together from the frames, from a `:module` option and from the name
of a resource, a `:controller` option, a target or a path. No segment of it ever has a slash or an
underscore in it. A segment may be empty or have `::` in it, where a text of a call has a part that
consists of underscores alone, and only there.

* `ControllerId.ofName?_segments`: the segments of a controller;
* `CallRule.writtenNames`: every segment comes from a text that is written in a call;
* `processAll_controllers`: without a part of underscores all controllers are well formed.
-/

import RouteTable.Proofs.Assoc
import RouteTable.Proofs.Compare.Options
import RouteTable.Proofs.Routes.Segment
import RouteTable.Proofs.Walk.Every
import RouteTable.Proofs.Walk.Reading

namespace RouteTable

/-! ## Part 1 — segments of controllers -/

namespace ControllerId

/-- The namespaces and the base name. -/
def segments (controller : ControllerId) : List String := controller.namespaces ++ [controller.name]

/-- The segments are those around the controller and those of the name, which has at least one. -/
theorem ofName?_segments {outer : List String} {name : String} {controller : ControllerId}
    (placed : ofName? outer name = some controller) :
    controller.segments = outer ++ camelizeSegments name := by
  obtain ⟨base, last, rfl⟩ := Option.map_eq_some_iff.mp placed
  rw [segments, List.append_assoc, List.dropLast_append_getLast? base last]

end ControllerId

/-! ## Part 2 — texts of a call -/

/-- The text of a symbol or of a text, also of one with interpolation. -/
def Atom.written? : Atom → Option String
  | .symbol name => some name
  | .text content => some content
  | .interpolated source => some source
  | _ => none

/-- The text of a symbol or of a text, also of one with interpolation. -/
def Value.written? : Value → Option String
  | .atom plain => plain.written?
  | _ => none

section Texts

variable (named : String → Prop)

/-- The text of a value has a property, if the value has a text. -/
def Value.Written (value : Value) : Prop := ∀ text ∈ value.written?, named text

/-- All arguments of the call have the property, and all keys and values of its options. -/
structure Call.Written (call : Call) : Prop where
  arguments : ∀ listed ∈ call.arguments, ∀ value ∈ listed, value.Written named
  keys : ∀ entries ∈ call.options, ∀ entry ∈ entries, (Value.atom entry.1).Written named
  values : ∀ entries ∈ call.options, ∀ entry ∈ entries, entry.2.Written named

/-- All values of a map have the property. -/
def Assoc.Written (options : Assoc String Value) : Prop :=
  ∀ entry ∈ options, entry.2.Written named

/-- The frame adds a segment with the property and hands down values with it. -/
structure Frame.Written (frame : Frame) : Prop where
  segment : ∀ name ∈ frame.segment?, named name
  defaults : Assoc.Written named frame.defaults

instance [DecidablePred named] (value : Value) : Decidable (value.Written named) :=
  inferInstanceAs (Decidable (∀ text ∈ value.written?, named text))

instance [DecidablePred named] (call : Call) : Decidable (call.Written named) :=
  decidable_of_iff
    ((∀ listed ∈ call.arguments, ∀ value ∈ listed, value.Written named) ∧
      (∀ entries ∈ call.options, ∀ entry ∈ entries, (Value.atom entry.1).Written named) ∧
      ∀ entries ∈ call.options, ∀ entry ∈ entries, entry.2.Written named)
    ⟨fun ⟨arguments, keys, values⟩ => ⟨arguments, keys, values⟩,
      fun ⟨arguments, keys, values⟩ => ⟨arguments, keys, values⟩⟩

/-- A property of texts that is kept by what is read off a text. -/
structure Inherited : Prop where
  empty : named ""
  target : ∀ {target controller action}, named target →
    RoutePath.splitTarget? target = some (controller, action) → named controller
  path : ∀ {path controller action}, named path →
    RoutePath.splitPath? path = some (controller, action) → named controller

end Texts

variable {named : String → Prop}

theorem Value.Written.literal {value : Value} (written : value.Written named) :
    ∀ text ∈ value.literal?, named text := by
  intro text read
  refine written text ?_
  unfold literal? at read
  split at read
  · rcases Atom.literal?_eq_some_iff.mp read with rfl | rfl <;> rfl
  · cases read

namespace Assoc.Written

variable {options other : Assoc String Value}

theorem nil : Written named [] := by
  intro entry inside
  cases inside

theorem merge (one : Written named options) (two : Written named other) :
    Written named (options.merge other) :=
  fun entry inside => (mem_of_mem_merge inside).elim (one entry) (two entry)

theorem optionValue (written : Written named options) (name : String) :
    (RouteTable.optionValue options name).Written named := by
  unfold RouteTable.optionValue
  cases found : options.get? name with
  | none =>
    intro text read
    cases read
  | some value => exact written (name, value) (mem_of_get? found)

end Assoc.Written

namespace Call.Written

variable {call : Call}

theorem keywordOptions (written : call.Written named) {own : Assoc String Value}
    (read : call.keywordOptions = .ok own) : Assoc.Written named own := by
  rw [Call.keywordOptions_eq] at read
  cases given : call.options with
  | none =>
    rw [given] at read
    cases read
  | some entries =>
    rw [given] at read
    obtain rfl := Except.ok.inj read
    intro entry inside
    obtain ⟨origin, listed, kept⟩ := List.mem_filterMap.mp (Assoc.mem_of_mem_ofEntries inside)
    obtain ⟨name, -, rfl⟩ := Option.map_eq_some_iff.mp kept
    exact written.values entries given origin listed

theorem mapping (written : call.Written named) {mapped : Atom × Value}
    (read : call.mapping? = .ok (some mapped)) :
    (Value.atom mapped.1).Written named ∧ mapped.2.Written named := by
  unfold Call.mapping? at read
  cases given : call.options with
  | none =>
    rw [given] at read
    cases read
  | some entries =>
    rw [given] at read
    have inside := List.mem_of_find?_eq_some (Except.ok.inj read)
    exact ⟨written.keys entries given mapped inside, written.values entries given mapped inside⟩

theorem firstArgument (written : call.Written named) :
    (call.firstArgument?.getD .nothing).Written named := by
  unfold Call.firstArgument?
  cases given : call.arguments with
  | none =>
    intro text read
    cases read
  | some listed =>
    cases listed with
    | nil =>
      intro text read
      cases read
    | cons first rest => exact written.arguments _ given first List.mem_cons_self

theorem firstLiteral (written : call.Written named) : ∀ text ∈ call.firstLiteral?, named text := by
  intro text read
  obtain ⟨value, first, literal⟩ := Option.bind_eq_some_iff.mp read
  have argument := written.firstArgument
  rw [first] at argument
  exact argument.literal text literal

theorem literalArguments (written : call.Written named) {names : List String}
    (read : call.literalArguments = .ok names) : ∀ name ∈ names, named name := by
  intro name inside
  unfold Call.literalArguments at read
  cases given : call.arguments with
  | none =>
    rw [given] at read
    cases read
  | some listed =>
    rw [given] at read
    obtain rfl := Except.ok.inj read
    obtain ⟨value, argument, literal⟩ := List.mem_filterMap.mp (List.mem_filter.mp inside).1
    exact (written.arguments listed given value argument).literal name literal

/-- The frame that a call opens takes its segment and its values from the call. -/
theorem frame (written : call.Written named) {opened : Frame}
    (read : call.frame? = .ok (some opened)) : opened.Written named := by
  have given (module : Option String) (controller : Value) (segment : ∀ name ∈ module, named name)
      (handed : controller.Written named) : (Frame.scoped module controller).Written named := by
    refine ⟨segment, ?_⟩
    unfold Frame.defaults
    dsimp only
    split
    · exact List.forall_mem_singleton.mpr handed
    · exact .nil
  unfold Call.frame? at read
  split at read
  · cases own : call.keywordOptions with
    | error fault =>
      rw [own] at read
      cases read
    | ok options =>
      rw [own] at read
      obtain rfl := Option.some.inj (Except.ok.inj read)
      have known := written.keywordOptions own
      exact given _ _ (known.optionValue "module").literal (known.optionValue "controller")
  · split at read
    · obtain rfl := Option.some.inj (Except.ok.inj read)
      exact given none _ nofun written.firstArgument
    · split at read
      · cases own : call.keywordOptions with
        | error fault =>
          rw [own] at read
          cases read
        | ok options =>
          rw [own] at read
          obtain rfl := Option.some.inj (Except.ok.inj read)
          exact ⟨nofun, written.keywordOptions own⟩
      · split at read
        · obtain ⟨name, first, rfl⟩ := Option.map_eq_some_iff.mp (Except.ok.inj read)
          refine ⟨fun segment same => ?_, .nil⟩
          obtain rfl := Option.some.inj same
          exact written.firstLiteral _ (Option.filter_eq_some_iff.mp first).1
        · cases read

end Call.Written

/-! ## Part 3 — from texts to controllers -/

section Frames

variable {scopes : Scopes}

theorem Scopes.defaults_written (each : ∀ frame ∈ scopes, frame.Written named) :
    Assoc.Written named scopes.defaults := by
  induction scopes with
  | nil => exact .nil
  | cons frame outer ih =>
    obtain ⟨first, others⟩ := List.forall_mem_cons.mp each
    exact (ih others).merge first.defaults

theorem Scopes.resourceDefaults_written (each : ∀ frame ∈ scopes, frame.Written named) :
    Assoc.Written named scopes.resourceDefaults := by
  induction scopes with
  | nil => exact .nil
  | cons frame outer ih =>
    obtain ⟨first, others⟩ := List.forall_mem_cons.mp each
    refine (ih others).merge ?_
    cases frame with
    | withOptions => exact first.defaults
    | _ => exact .nil

/-- Every segment of the controller comes from a text with the property. -/
def ControllerId.Written (named : String → Prop) (controller : ControllerId) : Prop :=
  ∀ segment ∈ controller.segments, ∃ name, named name ∧ segment ∈ camelizeSegments name

theorem ControllerId.written_of_ofName? (empty : named "")
    (each : ∀ frame ∈ scopes, frame.Written named) {module : Option String}
    (inner : ∀ name ∈ module, named name) {name : String} (known : named name)
    {controller : ControllerId}
    (placed : ofName? (scopes.controllerNamespaces ++ camelizeSegments (module.getD "")) name =
      some controller) : controller.Written named := by
  have filled {given : Option String} (known : ∀ name ∈ given, named name) :
      named (given.getD "") := by
    cases given with
    | none => exact empty
    | some name => exact known name rfl
  intro segment inside
  rw [ofName?_segments placed, List.append_assoc, List.mem_append, List.mem_append] at inside
  rcases inside with outer | module | own
  · obtain ⟨frame, around, found⟩ := List.mem_flatMap.mp outer
    exact ⟨_, filled (each frame (List.mem_reverse.mp around)).segment, found⟩
  · exact ⟨_, filled inner, module⟩
  · exact ⟨name, known, own⟩

end Frames

/-- The controller of a target with a mark is read off the text of the target. -/
theorem Target.ofValue_full {value : Value} {controller action : String}
    (read : ofValue value = .full controller action) :
    ∃ content, value = .text content ∧
      RoutePath.splitTarget? content = some (controller, action) := by
  unfold ofValue at read
  split at read
  · cases read
  · cases read
  · next content =>
    split at read
    · split at read
      · next found split =>
        obtain ⟨rfl, rfl⟩ := Target.full.inj read
        exact ⟨content, rfl, split⟩
      · cases read
    · cases read
  · cases read

/-- A controller that completes a reading was known, or the path suggests it. -/
theorem DirectReading.complete_controller {path : String} {legacy : Bool}
    {controller action : Option String} {names : String × String}
    (read : complete path legacy controller action = .ok names) :
    controller = some names.1 ∨
      ∃ suggested, RoutePath.splitPath? path = some suggested ∧ names.1 = suggested.1 := by
  rcases Option.or_eq_some_iff.mp (complete_ok read).1 with known | ⟨-, path⟩
  · exact .inl known
  · obtain ⟨suggested, split, same⟩ := Option.map_eq_some_iff.mp path
    split at split
    · exact .inr ⟨suggested, split, same.symm⟩
    · cases split

theorem DirectReading.controller_written (inherited : Inherited named)
    {defaults : Assoc String Value} (outer : Assoc.Written named defaults) {call : Call}
    (written : call.Written named) {reading : DirectReading}
    (given : ofCall defaults call = .ok reading) {legacy : Bool} {names : String × String}
    (read : reading.names legacy = .ok names) :
    named names.1 ∧ ∀ name ∈ reading.module, named name := by
  obtain ⟨own, mapping, options, mapped, path, target, controller, -, module⟩ := ofCall_ok given
  have known := outer.merge (written.keywordOptions options)
  have pathKnown : named reading.path := by
    rw [path]
    cases mapping with
    | none =>
      cases first : call.firstLiteral? with
      | none => exact inherited.empty
      | some text => exact written.firstLiteral text first
    | some entry =>
      have key := (written.mapping mapped).1.literal
      obtain ⟨plain, value⟩ := entry
      show named (plain.literal?.getD "")
      cases literal : plain.literal? with
      | none => exact inherited.empty
      | some text => exact key text literal
  refine ⟨?_, module ▸ (known.optionValue "module").literal⟩
  obtain ⟨found, action, completed, origin⟩ := names_completed read
  rcases complete_controller completed with rfl | ⟨suggested, split, same⟩
  · rcases origin names.1 rfl with ⟨action, full⟩ | option
    · rw [target] at full
      obtain ⟨content, same, split⟩ := Target.ofValue_full full
      have text : (Value.text content).Written named := by
        rw [← same]
        cases mapping with
        | none => exact known.optionValue "to"
        | some entry => exact (written.mapping mapped).2
      exact inherited.target (text content rfl) split
    · exact (known.optionValue "controller").literal _ (controller ▸ option)
  · exact same ▸ inherited.path pathKnown split

/-- What a root names in its target is read off the text of the target. -/
theorem RootReading.namesIn_some {value : Value} {names : String × String}
    (read : namesIn value = some (some names)) :
    ∃ content ∈ value.written?, RoutePath.splitTarget? content = some names := by
  unfold namesIn at read
  split at read
  · next content =>
    split at read
    · exact ⟨content, rfl, Option.some.inj read⟩
    · cases read
  · next content =>
    split at read
    · exact ⟨content, rfl, Option.some.inj read⟩
    · cases read
  · cases read

theorem RootReading.controller_written (inherited : Inherited named)
    {defaults : Assoc String Value} (outer : Assoc.Written named defaults) {call : Call}
    (written : call.Written named) {reading : RootReading}
    (given : ofCall defaults call = .ok reading) {names : String × String}
    (read : reading.naming.names = .ok names) :
    named names.1 ∧ ∀ name ∈ reading.module, named name := by
  obtain ⟨own, options, target, controller, module⟩ := ofCall_ok given
  have known := outer.merge (written.keywordOptions options)
  refine ⟨?_, module ▸ (known.optionValue "module").literal⟩
  rcases names_cases read with mapped | ⟨option, -⟩
  · rw [target] at mapped
    obtain ⟨content, text, split⟩ := namesIn_some mapped
    refine inherited.target ?_ split
    unfold targetOf at text
    split at text
    · exact known.optionValue "to" content text
    · exact written.firstArgument content text
  · exact (known.optionValue "controller").literal _ (controller ▸ option)

/-- **Every segment of a controller comes from a text that is written in a call**, and what is kept
by reading texts holds for the text it comes from. -/
def CallRule.writtenNames (inherited : Inherited named) :
    CallRule (ControllerId.Written named) (fun _ => True) where
  scopes outer := ∀ frame ∈ outer, frame.Written named
  calls _ call := call.Written named
  standard _ _ _ := trivial
  frame outer written read := List.forall_mem_cons.mpr ⟨written.frame read, outer⟩
  declaration {outer _ call declaration} around written read := by
    obtain ⟨own, names, options, listed, controllers, -, -⟩ := ResourceDeclaration.ofCall_ok read
    have known := (Scopes.resourceDefaults_written around).merge (written.keywordOptions options)
    refine ⟨fun found inside => ?_, fun _ _ => trivial, fun _ _ => trivial⟩
    rw [controllers] at inside
    obtain ⟨name, called, placed⟩ := List.mem_filterMap.mp inside
    refine ControllerId.written_of_ofName? inherited.empty around
      (known.optionValue "module").literal ?_ placed
    cases explicit : ((optionValue (outer.resourceDefaults.merge own) "controller").literal?).filter
        (· ≠ "") with
    | none => exact written.literalArguments listed name called
    | some other =>
      exact (known.optionValue "controller").literal other (Option.filter_eq_some_iff.mp explicit).1
  added _ _ _ := trivial
  direct around written leads := by
    obtain ⟨reading, controller, given, read, placed⟩ := directRoute_route leads
    obtain ⟨known, module⟩ :=
      DirectReading.controller_written inherited (Scopes.defaults_written around) written given read
    exact ⟨ControllerId.written_of_ofName? inherited.empty around module known placed, trivial⟩
  root around written leads := by
    obtain ⟨reading, controller, given, read, placed⟩ := rootRoute_route leads
    obtain ⟨known, module⟩ :=
      RootReading.controller_written inherited (Scopes.defaults_written around) written given read
    exact ⟨ControllerId.written_of_ofName? inherited.empty around module known placed, trivial⟩

/-! ## Part 4 — files -/

/-- No text that is written in the call has a part that consists of underscores alone. -/
abbrev Call.Regular (call : Call) : Prop := call.Written RegularName

/-- The controller has a base name and namespaces that are well formed. -/
structure ControllerId.WellFormed (controller : ControllerId) : Prop where
  name : WellFormedSegment controller.name
  namespaces : ∀ segment ∈ controller.namespaces, WellFormedSegment segment

namespace Recognizer

/-- **Controllers are well formed, unless a text has a part of underscores alone.** Whatever the
calls of a sequence of files hold, and whatever was read before, no segment of the controller of a
route has a slash or an underscore in it. If no text of a call has a part that consists of
underscores alone, then each segment is not empty and has no `::` in it either. -/
theorem processAll_controllers (files : List RoutingFile) (state : Recognizer) :
    (∀ found ∈ (processAll files state).1, ∀ route ∈ found, ∀ segment ∈ route.controller.segments,
      '/' ∉ segment.toList ∧ '_' ∉ segment.toList) ∧
    ((∀ file ∈ files, EveryCall (fun _ => Call.Regular) false file.statements) →
      ∀ found ∈ (processAll files state).1, ∀ route ∈ found, route.controller.WellFormed) := by
  constructor
  · intro found listed route member segment inside
    -- of the texts themselves nothing is asked here
    have inherited : Inherited fun _ => True := ⟨trivial, fun _ _ => trivial, fun _ _ => trivial⟩
    have every (file : RoutingFile) :
        EveryCall (fun _ => Call.Written fun _ => True) false file.statements :=
      EveryCall.of_forall (fun _ _ => by constructor <;> exact fun _ _ _ _ _ _ => trivial) _ _
    have written := ((CallRule.writtenNames inherited).processAll_has nofun
      (fun file _ => every file) state found listed route member).controller
    obtain ⟨name, -, made⟩ := written segment inside
    exact camelizeSegments_marks made
  · intro regular found listed route member
    have inherited : Inherited RegularName := ⟨.empty, fun known split => known.splitTarget split,
      fun known split => known.splitPath split⟩
    have written := ((CallRule.writtenNames inherited).processAll_has nofun regular state found
      listed route member).controller
    have each : ∀ segment ∈ route.controller.segments, WellFormedSegment segment := by
      intro segment inside
      obtain ⟨name, known, made⟩ := written segment inside
      exact camelizeSegments_wellFormed known made
    exact ⟨each _ (List.mem_append_right _ List.mem_cons_self),
      fun segment inside => each segment (List.mem_append_left _ inside)⟩

/-- Names with slashes, colons and underscores of their own: a module, a frame, a target, a path and
a root whose target is interpolated. -/
theorem processAll_controllers_nested :
    let posts : Call := ⟨"resources", 2, none, some [.symbol "_blog__posts"],
      some [(.symbol "only", .symbol "index"), (.symbol "module", .text "high_voltage//a:b")], none⟩
    let login : Call := ⟨"get", 3, none, some [],
      some [(.text "login", .text "user::sessions_#new")], none⟩
    let home : Call := ⟨"root", 4, none, some [.interpolated "#/#show"], some [], none⟩
    let admin : Call := ⟨"namespace", 1, none, some [.symbol "admin_:x"], some [],
      some ⟨some [], some [.call posts, .call login, .call home]⟩⟩
    let path : Call := ⟨"get", 5, none, some [.text "/api/_v1/posts/list"], some [], none⟩
    let files : List RoutingFile := [⟨none, [.call admin]⟩, ⟨none, [.call path]⟩]
    (∀ file ∈ files, EveryCall (fun _ => Call.Regular) false file.statements) ∧
      (processAll files {}).1.map (·.map (·.text)) =
        [["Admin:x::HighVoltage::A:b::BlogPostsController#index",
          "Admin:x::User::SessionsController#new"], ["Api::V1::PostsController#list"]] ∧
      ∀ found ∈ (processAll files {}).1, ∀ route ∈ found, route.controller.WellFormed := by
  intro posts login home admin path files
  have regular : ∀ file ∈ files, EveryCall (fun _ => Call.Regular) false file.statements := by
    intro file member
    simp only [files, List.mem_cons, List.not_mem_nil, or_false] at member
    rcases member with rfl | rfl
    · have outer : Call.Regular admin := by decide +kernel
      have resource : Call.Regular posts := by decide +kernel
      have verb : Call.Regular login := by decide +kernel
      have root : Call.Regular home := by decide +kernel
      exact ⟨⟨outer, ⟨resource, trivial⟩, ⟨verb, trivial⟩, ⟨root, trivial⟩, trivial⟩, trivial⟩
    · have verb : Call.Regular path := by decide +kernel
      exact ⟨⟨verb, trivial⟩, trivial⟩
  exact ⟨regular, by decide +kernel, (processAll_controllers files {}).2 regular⟩

/-- A resource whose name is an underscore: its controller has no base name. -/
theorem process_nameless_controller :
    let nameless : Call := ⟨"resources", 1, none, some [.symbol "_"],
      some [(.symbol "only", .symbol "index")], none⟩
    (process none [.call nameless] {}).1.map (·.controller) = [⟨[], ""⟩] := by
  decide +kernel

end Recognizer

end RouteTable
