/-
**Where an added action belongs.**

In a resource block a verb with a bare action adds it to the resource, among those of one thing or
among those of all. Its own `:on` decides which, or else the block that it stands in. An `:on` that
a `with_options` block hands down is not looked at: the actions belong where they would without it.
So it counts as if it were written at each verb only as far as it asks for what the block asks for.

* `Plan.inner?_grouping`: which grouping the statements in a block are in;
* `Contribution.ofCall_handing`: a block that hands an `:on` down contributes what its verbs do
  without it;
* `Contribution.ofStatements_written_iff`, `walk_withOn_iff`: when the verbs contribute the same
  with the `:on` written at them;
* `process_unfolded`: such blocks may be replaced by their verbs, and then also by the verbs with
  the `:on` written at them, in any file and at any depth.
-/

import RouteTable.Proofs.Compare.Inlining

namespace RouteTable

/-! ## Part 1 — groupings -/

namespace Call

/-- The grouping in which the statements in the block of a call are, by the name of the call. -/
def groupingInside (call : Call) (grouping : Option Grouping) : Option Grouping :=
  match ResourceKind.ofWord? call.name, Grouping.ofWord? call.name with
  | some _, _ => some .member
  | none, some opened => grouping.map fun _ => opened
  | none, none => grouping

/-- The name of a frame is none of a grouping. -/
theorem ofWord?_of_namesFrame {call : Call} (word : call.namesFrame) :
    Grouping.ofWord? call.name = none := by
  simp only [namesFrame, List.contains_iff_mem, List.mem_cons, List.not_mem_nil, or_false] at word
  rcases word with word | word | word | word
  all_goals simp [Grouping.ofWord?, word]

/-- A call that opens neither a frame nor a grouping leaves the grouping as it is. -/
theorem plainForm_groupingInside (call : Call) (parameters : List String)
    (grouping : Option Grouping) :
    (call.plainForm parameters).groupingInside grouping = grouping := by
  unfold plainForm
  repeat' split
  all_goals rfl

/-- With a block, the name says what the form does. -/
theorem groupingInside_form {call : Call} {around : Surroundings} (given : call.hasBlock) :
    call.groupingInside around.grouping = (call.form around).groupingInside around.grouping := by
  have plain := call.plainForm_groupingInside around.parameters around.grouping
  unfold groupingInside form opensGrouping?
  rw [given, Bool.true_and, Bool.true_and]
  cases ResourceKind.ofWord? call.name with
  | some kind => rfl
  | none =>
    cases word : call.namesFrame with
    | true =>
      rw [ofWord?_of_namesFrame word]
      rfl
    | false =>
      generalize around.grouping = grouping at *
      cases grouping with
      | none => cases Grouping.ofWord? call.name <;> exact plain.symm
      | some enclosing =>
        cases Grouping.ofWord? call.name with
        | none => exact plain.symm
        | some opened => rfl

end Call

/-- The grouping in which the statements in the block of a call are. -/
theorem Plan.inner?_grouping {around inner : Surroundings} {call : Call} (given : call.hasBlock)
    (entered : inner ∈ inner? around (ofCall around call)) :
    inner.grouping = call.groupingInside around.grouping := by
  rw [Call.groupingInside_form given]
  rw [ofCall_form] at entered
  exact (inner?_ofForm entered).2

/-! ## Part 2 — verbs with a bare action -/

namespace Call

/-- **The call is a verb with a bare action**, which it adds to the resource around it. -/
structure IsBareVerb (call : Call) : Prop where
  verb : call.isVerb
  bare : ∃ action, extensionAction? call = .ok (some action)

/-- The `:on` that the call writes itself. -/
def ownOn? (call : Call) : Option Value :=
  match call.keywordOptions with
  | .ok own => own.get? "on"
  | .error _ => none

/-- The call with an `:on` written at it, if it writes none itself. -/
def withOn (value : Value) (call : Call) : Call := call.withDefaults [("on", value)]

variable (value : Value) (call : Call)

/-- The options of a call with an `:on` written at it. -/
theorem keywordOptions_withOn :
    ReadAlike (fun own merged => ∀ name, Assoc.get? merged name =
        (Assoc.get? own name).or (if "on" = name then some value else none))
      call.keywordOptions (call.withOn value).keywordOptions := by
  rw [keywordOptions_eq, keywordOptions_eq, withOn, withDefaults]
  cases call.options with
  | none => exact .fault
  | some own => exact .read (Assoc.get?_ofEntries_underOptions [("on", value)] own)

/-- The action of a verb does not depend on an `:on`. -/
theorem extensionAction?_withOn :
    extensionAction? (call.withOn value) = extensionAction? call := by
  rw [extensionAction?_eq, extensionAction?_eq, withOn, mapping?_withDefaults, ← withOn]
  refine (call.keywordOptions_withOn value).bind_eq fun own merged written => ?_
  have same {name : String} (other : "on" ≠ name) : Assoc.get? merged name = Assoc.get? own name :=
    (written name).trans (by rw [if_neg other, Option.or_none])
  rw [Assoc.contains, Assoc.contains, Assoc.contains, Assoc.contains, optionValue, optionValue,
    same (by decide), same (by decide), same (by decide)]
  rfl

variable {call}

theorem IsBareVerb.withOn (bare : call.IsBareVerb) : (call.withOn value).IsBareVerb :=
  ⟨bare.verb, by rw [extensionAction?_withOn]; exact bare.bare⟩

/-- A verb with a bare action has options that can be read. -/
theorem IsBareVerb.keywordOptions (bare : call.IsBareVerb) :
    ∃ own, call.keywordOptions = .ok own := by
  obtain ⟨action, added⟩ := bare.bare
  cases read : call.keywordOptions with
  | ok own => exact ⟨own, rfl⟩
  | error fault =>
    rw [extensionAction?_eq, read] at added
    cases added

/-- The `:on` of a call with one written at it: its own, or else that one. -/
theorem IsBareVerb.ownOn?_withOn (bare : call.IsBareVerb) :
    (call.withOn value).ownOn? = call.ownOn?.or (some value) := by
  obtain ⟨own, read⟩ := bare.keywordOptions
  have written := call.keywordOptions_withOn value
  unfold ownOn?
  generalize (call.withOn value).keywordOptions = merged at *
  rw [read] at *
  cases written with
  | read written => exact written "on"

end Call

/-! ## Part 3 — contributions -/

namespace Contribution

/-- The names that are added to one grouping. -/
def names (added : Contribution) : Grouping → List String
  | .member => added.member
  | .collection => added.collection

theorem names_append (first second : Contribution) (grouping : Grouping) :
    (first ++ second).names grouping = first.names grouping ++ second.names grouping := by
  cases grouping <;> rfl

theorem names_ofName (grouping wanted : Grouping) (action : String) :
    (ofName grouping action).names wanted = if grouping = wanted then [action] else [] := by
  cases grouping <;> cases wanted <;> rfl

section Bare

variable {around : Surroundings} {enclosing : Grouping} (inside : around.grouping = some enclosing)
include inside

/-- A verb with a bare action contributes it where its own `:on` says, or else its block. -/
theorem ofCall_bare {call : Call} {action : String} (verb : call.isVerb)
    (added : extensionAction? call = .ok (some action)) :
    ofCall around call =
      ofName (Grouping.ofOption (call.ownOn?.getD .nothing) enclosing) action := by
  obtain ⟨own, read⟩ := Call.IsBareVerb.keywordOptions ⟨verb, action, added⟩
  have named : call.addedName? around =
      some (Grouping.ofOption (call.ownOn?.getD .nothing) enclosing, action) := by
    rw [Call.addedName?, inside, added, Call.ownOn?, read]
    rfl
  rw [ofCall_verb (Call.form_of_isVerb verb), ofVerb, named]

/-- With an `:on` written at it, the verb contributes its action where that says, unless it writes
one itself. -/
theorem ofCall_withOn (value : Value) {call : Call} {action : String} (verb : call.isVerb)
    (added : extensionAction? call = .ok (some action)) :
    ofCall around (call.withOn value) = ofName
      (Grouping.ofOption ((call.ownOn?.or (some value)).getD .nothing) enclosing) action := by
  have bare : call.IsBareVerb := ⟨verb, action, added⟩
  rw [← bare.ownOn?_withOn]
  exact ofCall_bare inside verb ((Call.extensionAction?_withOn value call).trans added)

/-- Nothing else of the surroundings is looked at than the grouping. -/
theorem ofStatements_bare {other : Surroundings} (same : other.grouping = around.grouping)
    {calls : List Call} (bare : ∀ call ∈ calls, call.IsBareVerb) :
    ofStatements other (calls.map .call) = ofStatements around (calls.map .call) := by
  induction calls with
  | nil => rfl
  | cons call rest ih =>
    obtain ⟨⟨verb, action, added⟩, others⟩ := List.forall_mem_cons.mp bare
    rw [List.map_cons, ofStatements, ofStatements, ih others, ofCall_bare inside verb added,
      ofCall_bare (same.trans inside) verb added]

/-- **Options that are handed down to verbs with bare actions are not looked at.** -/
theorem ofCall_handing {opener : Call} {own : Assoc String Value} {parameters : List String}
    {calls : List Call} (word : opener.name = "with_options")
    (read : opener.keywordOptions = .ok own)
    (given : opener.block = some ⟨some parameters, some (calls.map .call)⟩)
    (bare : ∀ call ∈ calls, call.IsBareVerb) :
    ofCall around opener = ofStatements around (calls.map .call) := by
  rw [ofCall_opens around given (by simp [Call.namesFrame, word])
    (Call.frame?_withOptions read word)]
  refine ofStatements_bare inside ?_ bare
  rfl

/-- Verbs with bare actions declare no routes of their own. -/
theorem routes_bare {calls : List Call} (bare : ∀ call ∈ calls, call.IsBareVerb) :
    (ofStatements around (calls.map .call)).routes = [] := by
  induction calls with
  | nil => rfl
  | cons call rest ih =>
    obtain ⟨⟨verb, action, added⟩, others⟩ := List.forall_mem_cons.mp bare
    rw [List.map_cons, ofStatements, routes_append, ih others, ofCall_bare inside verb added]
    cases Grouping.ofOption (call.ownOn?.getD .nothing) enclosing <;> rfl

/-- Verbs with an `:on` written at them leave the list that their block asks for, unless they write
one themselves. -/
theorem names_withOn {value : Value} (moved : Grouping.ofOption value enclosing ≠ enclosing)
    {calls : List Call} (bare : ∀ call ∈ calls, call.IsBareVerb) :
    ((ofStatements around (calls.map fun call => .call (call.withOn value))).names
        enclosing).length + calls.countP (·.ownOn?.isNone) =
      ((ofStatements around (calls.map .call)).names enclosing).length := by
  induction calls with
  | nil => rfl
  | cons call rest ih =>
    obtain ⟨⟨verb, action, added⟩, others⟩ := List.forall_mem_cons.mp bare
    rw [List.map_cons, List.map_cons, ofStatements, ofStatements, names_append, names_append,
      List.length_append, List.length_append, List.countP_cons, ← ih others,
      ofCall_withOn inside value verb added, ofCall_bare inside verb added, names_ofName,
      names_ofName]
    cases call.ownOn? with
    | none =>
      have stays : Grouping.ofOption .nothing enclosing = enclosing := rfl
      rw [Option.none_or, Option.getD_some, Option.getD_none, if_neg moved, if_pos stays,
        Option.isNone_none, if_pos rfl, List.length_nil, List.length_singleton]
      omega
    | some on =>
      rw [Option.some_or, Option.getD_some, Option.isNone_some, if_neg Bool.false_ne_true]
      omega

/-- **When an `:on` that is handed down counts as if it were written at each verb**: if it asks for
what the block asks for, or if every verb writes one itself. -/
theorem ofStatements_written_iff {value : Value} {calls : List Call}
    (bare : ∀ call ∈ calls, call.IsBareVerb) :
    ofStatements around (calls.map fun call => .call (call.withOn value)) =
        ofStatements around (calls.map .call) ↔
      ∀ call ∈ calls, call.ownOn? = none → Grouping.ofOption value enclosing = enclosing := by
  constructor
  · intro same call member absent
    by_contra moved
    have counted := names_withOn inside moved bare
    rw [same] at counted
    have none : calls.countP (·.ownOn?.isNone) = 0 := by omega
    exact absurd (Option.isNone_iff_eq_none.mpr absent) (List.countP_eq_zero.mp none call member)
  · intro agrees
    induction calls with
    | nil => rfl
    | cons call rest ih =>
      obtain ⟨⟨verb, action, added⟩, others⟩ := List.forall_mem_cons.mp bare
      obtain ⟨here, further⟩ := List.forall_mem_cons.mp agrees
      have kept : Grouping.ofOption ((call.ownOn?.or (some value)).getD .nothing) enclosing =
          Grouping.ofOption (call.ownOn?.getD .nothing) enclosing := by
        cases own : call.ownOn? with
        | none => exact here own
        | some on => rfl
      rw [List.map_cons, List.map_cons, ofStatements, ofStatements, ih others further,
        ofCall_withOn inside value verb added, kept, ofCall_bare inside verb added]

end Bare

/-- Contributions of the same routes give an open resource the same names only if they are equal. -/
theorem extendInnermost_inj {first second : Contribution} (routes : second.routes = first.routes)
    (resource : OpenResource) (outer : List OpenResource) :
    second.extendInnermost (resource :: outer) = first.extendInnermost (resource :: outer) ↔
      second = first := by
  obtain ⟨_, member, collection⟩ := first
  obtain ⟨_, _, _⟩ := second
  subst routes
  simp [extendInnermost, extend]

end Contribution

/-! ## Part 4 — trees -/

/-- **Trees after options around verbs with bare actions are unfolded**, any number of times, at any
depth: such a block is replaced by its verbs as they are; or, where it hands down an `:on`, by the
verbs with that written at them, if each of them writes one itself or the `:on` asks for what its
block asks for. -/
inductive Unfolded : Option Grouping → List Value → List Value → Prop
  | nil {grouping} : Unfolded grouping [] []
  | keep {grouping statement rest others} : Unfolded grouping rest others →
      Unfolded grouping (statement :: rest) (statement :: others)
  | within {grouping call parameters body kept rest others} :
      call.block = some ⟨parameters, some body⟩ →
      Unfolded (call.groupingInside grouping) body kept → Unfolded grouping rest others →
      Unfolded grouping (.call call :: rest)
        (.call { call with block := some ⟨parameters, some kept⟩ } :: others)
  | leave {enclosing own parameters rest others} {opener : Call} {calls : List Call} :
      opener.name = "with_options" → opener.keywordOptions = .ok own →
      opener.block = some ⟨some parameters, some (calls.map .call)⟩ →
      (∀ call ∈ calls, call.IsBareVerb) → Unfolded (some enclosing) rest others →
      Unfolded (some enclosing) (.call opener :: rest) (calls.map .call ++ others)
  | write {enclosing value parameters rest others} {opener : Call} {calls : List Call} :
      opener.name = "with_options" →
      opener.options = some (symbolEntries [("on", value)]) →
      opener.block = some ⟨some parameters, some (calls.map .call)⟩ →
      (∀ call ∈ calls, call.IsBareVerb) →
      (∀ call ∈ calls, call.ownOn? = none → Grouping.ofOption value enclosing = enclosing) →
      Unfolded (some enclosing) rest others →
      Unfolded (some enclosing) (.call opener :: rest)
        ((calls.map fun call => .call (call.withOn value)) ++ others)

/-- Statements contribute the same after options are unfolded. -/
theorem Unfolded.ofStatements_eq {grouping : Option Grouping} {statements others : List Value}
    (unfolded : Unfolded grouping statements others) {around : Surroundings}
    (here : around.grouping = grouping) :
    Contribution.ofStatements around others = Contribution.ofStatements around statements := by
  induction unfolded generalizing around with
  | nil => rfl
  | keep _ ih =>
    rw [Contribution.ofStatements_cons, ih here, ← Contribution.ofStatements_cons]
  | @within grouping call parameters body kept rest others given _ _ inside ih =>
    subst here
    have block : call.hasBlock := by rw [Call.hasBlock, given]; rfl
    have same : Contribution.ofCall around { call with block := some ⟨parameters, some kept⟩ } =
        Contribution.ofCall around call :=
      Contribution.ofCall_entered given fun inner entered =>
        inside (show inner.grouping = _ from Plan.inner?_grouping block entered)
    rw [Contribution.ofStatements, Contribution.ofStatements, ih rfl, same]
  | leave word read given bare _ ih =>
    rw [Contribution.ofStatements_append, ih here, Contribution.ofStatements,
      Contribution.ofCall_handing here word read given bare]
  | write word options given bare agrees _ ih =>
    rw [Contribution.ofStatements_append, ih here, Contribution.ofStatements,
      Contribution.ofCall_handing here word (Call.keywordOptions_symbolEntries options) given bare,
      (Contribution.ofStatements_written_iff here bare).mpr agrees]

namespace Recognizer

/-- **How far an `:on` that is handed down counts.** From every state with an open resource, in all
frames and blocks: verbs with bare actions declare the same inside a block with an `:on` and with
the `:on` written at each of them; and they give the open resource the same names if and only if the
`:on` asks for what the block of the resource asks for or every verb writes one itself. -/
theorem walk_withOn_iff {state : Recognizer} {resource : OpenResource} {outer : List OpenResource}
    (opened : state.resources = resource :: outer) {value : Value} {parameters : List String}
    {opener : Call} {calls : List Call} (bare : ∀ call ∈ calls, call.IsBareVerb)
    (word : opener.name = "with_options")
    (options : opener.options = some (symbolEntries [("on", value)]))
    (given : opener.block = some ⟨some parameters, some (calls.map .call)⟩) :
    let inherited := walk [.call opener] state
    let written := walk (calls.map fun call => .call (call.withOn value)) state
    written.registry = inherited.registry ∧
      (written.resources = inherited.resources ↔ ∀ call ∈ calls, call.ownOn? = none →
        Grouping.ofOption value resource.grouping = resource.grouping) := by
  intro inherited written
  have inside : state.surroundings.grouping = some resource.grouping := by
    rw [surroundings, opened]
    rfl
  have handed := walk_adds [.call opener] state
  have direct := walk_adds (calls.map fun call => .call (call.withOn value)) state
  rw [Contribution.ofStatements_single, Contribution.ofCall_handing inside word
    (Call.keywordOptions_symbolEntries options) given bare] at handed
  have quiet := Contribution.routes_bare inside bare
  have written : ∀ call ∈ calls.map (·.withOn value), call.IsBareVerb :=
    List.forall_mem_map.mpr fun call member => (bare call member).withOn value
  have routes := Contribution.routes_bare inside written
  rw [List.map_map, Function.comp_def] at routes
  refine ⟨Array.toList_inj.mp ?_, ?_⟩
  · rw [handed.registry, direct.registry, Contribution.routesIn, Contribution.routesIn, quiet,
      routes]
  · rw [handed.resources, direct.resources, opened,
      Contribution.extendInnermost_inj (routes.trans quiet.symm)]
    exact Contribution.ofStatements_written_iff inside bare

/-- **An `:on` that is handed down may be written at the verbs**, where it asks for what their block
asks for or where they write one themselves, and everywhere it may be left out: the file declares
the same routes in the same order, on the same lines. This goes for any number of such blocks at
once, at any depth, in any frames and with any calls beside them. -/
theorem process_unfolded {statements others : List Value}
    (unfolded : Unfolded none statements others) (file : Option String) (state : Recognizer) :
    (process file others state).1 = (process file statements state).1 := by
  have same := unfolded.ofStatements_eq (show Surroundings.outermost.grouping = none from rfl)
  rw [process_routes, process_routes, routesOf, routesOf, same]

/-- In a namespace, a `collection` block around an `:on` that asks for the same, where one of the
verbs writes its own; and an `:on` that asks for something else than the block of the resource, and
is left out. -/
theorem process_unfolded_nested :
    let block (body : List Value) : Option Block := some ⟨some [], some body⟩
    let verb (line : Int) (name : String) (own : List (Atom × Value)) : Call :=
      ⟨"get", line, none, some [.symbol name], some own, none⟩
    let all : List Call := [verb 5 "search" [], verb 6 "preview" [(.symbol "on", .symbol "member")]]
    let one : List Call := [verb 8 "export" []]
    let options (line : Int) (value : Value) (calls : List Call) : Call :=
      ⟨"with_options", line, none, some [], some (symbolEntries [("on", value)]),
        some ⟨some ["posts"], some (calls.map .call)⟩⟩
    let file (inAll inPosts : List Value) : List Value :=
      let collection : Call := ⟨"collection", 3, none, some [], some [], block inAll⟩
      let posts : Call := ⟨"resources", 2, none, some [.symbol "posts"],
        some [(.symbol "only", .symbol "index")], block (.call collection :: inPosts)⟩
      [.call ⟨"namespace", 1, none, some [.symbol "admin"], some [], block [.call posts]⟩]
    let statements := file [.call (options 4 (.text "collection") all)]
      [.call (options 7 (.symbol "collection") one)]
    let others := file (all.map fun call => .call (call.withOn (.text "collection")))
      (one.map .call)
    Unfolded none statements others ∧
      (process none statements {}).1.map (·.text) = ["Admin::PostsController#index",
        "Admin::PostsController#preview", "Admin::PostsController#export",
        "Admin::PostsController#search"] ∧
      (process none others {}).1 = (process none statements {}).1 := by
  intro block verb all one options file statements others
  have bare (line : Int) (name : String) (own : List (Atom × Value))
      (added : extensionAction? (verb line name own) = .ok (some name)) :
      (verb line name own).IsBareVerb := ⟨rfl, name, added⟩
  have bareAll : ∀ call ∈ all, call.IsBareVerb := by
    simp only [all, List.forall_mem_cons]
    exact ⟨bare _ _ _ (by decide +kernel), bare _ _ _ (by decide +kernel), nofun⟩
  have bareOne : ∀ call ∈ one, call.IsBareVerb := by
    simp only [one, List.forall_mem_cons]
    exact ⟨bare _ _ _ (by decide +kernel), nofun⟩
  have asked : Grouping.ofOption (.text "collection") .collection = .collection := by decide
  have unfolded : Unfolded none statements others :=
    .within rfl
      (.within rfl
        (.within rfl (.write rfl rfl rfl bareAll (fun _ _ _ => asked) .nil)
          (.leave rfl rfl rfl bareOne .nil))
        .nil)
      .nil
  exact ⟨unfolded, by decide +kernel, process_unfolded unfolded none {}⟩

/-- An `:on` that is handed down and asks for something else than the block of the resource: the
verb inside is added to the members, as the verb beside it, and not to the collection. -/
theorem process_inherited_on :
    let preview : Call := ⟨"get", 4, none, some [.symbol "preview"], some [], none⟩
    let search : Call := ⟨"get", 3, none, some [.symbol "search"], some [], none⟩
    let inherited : Call := ⟨"with_options", 2, none, some [],
      some (symbolEntries [("on", .symbol "collection")]), some ⟨some [], some [.call search]⟩⟩
    let posts (first : Call) : List Value :=
      [.call ⟨"resources", 1, none, some [.symbol "posts"], some [(.symbol "only", .symbol "none")],
        some ⟨some [], some [.call first, .call preview]⟩⟩]
    (process none (posts inherited) {}).1.map (·.text) =
        ["PostsController#search", "PostsController#preview"] ∧
      (process none (posts (search.withOn (.symbol "collection"))) {}).1.map (·.text) =
        ["PostsController#preview", "PostsController#search"] := by
  decide +kernel

end Recognizer

end RouteTable
