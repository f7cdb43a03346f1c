/-
**Slashes in paths.**

Slashes only keep the segments of a path apart. How many of them stand between two segments, and
whether there are some at the ends, is not seen by anything that reads a path: neither where it is
looked through for a controller and an action, nor where it is looked through for placeholders, nor
where it is a bare name. A path of slashes alone is read like the empty one.

* `RoutePath.tokens_eq`: the tokens of a path are those of its segments;
* `bareAction?_eq_some_iff`: a bare name is a path of one segment;
* `DirectReading.names_repathed`: paths with the same segments give the same names;
* `Call.Repathed`: a call with another path;
* `walk_repathed`: it does the same if the segments are the same.
-/

import RouteTable.Proofs.Compare.Options
import RouteTable.Proofs.Compare.Trees
import RouteTable.Proofs.Routes.Inference

namespace RouteTable

/-! ## Part 1 — paths -/

namespace RoutePath

/-- The tokens of a path are those of its segments, in order. -/
theorem tokens_eq (path : String) : tokens path = (segments path).flatMap tokens := by
  have finer (char : Char) (slash : decide (char = '/') = true) :
      decide (char = '/' ∨ char = '(' ∨ char = ')' ∨ char = '.') = true :=
    decide_eq_true (.inl (of_decide_eq_true slash))
  simp only [tokens, segments, List.flatMap_map, String.toList_ofList, ← List.map_flatMap,
    Bool.decide_or, ← Bool.or_assoc] at *
  rw [Text.flatMap_words finer]

variable {path other : String} (same : segments other = segments path)
include same

theorem tokens_congr : tokens other = tokens path := by
  rw [tokens_eq, same, ← tokens_eq]

theorem isCatchAll_congr : isCatchAll other = isCatchAll path := by
  rw [isCatchAll, isCatchAll, tokens_congr same]

theorem splitPath?_congr : splitPath? other = splitPath? path := by
  rw [splitPath?, splitPath?, same]

theorem defaultAction?_congr (legacy : Bool) :
    defaultAction? other legacy = defaultAction? path legacy := by
  rw [defaultAction?, defaultAction?, tokens_congr same, same]

end RoutePath

/-- **A bare name is a path of one segment**, if nothing is filled in for it. -/
theorem bareAction?_eq_some_iff {path action : String} :
    bareAction? path = some action ↔
      RoutePath.segments path = [action] ∧ RoutePath.isDynamic action = false := by
  refine ⟨RoutePath.segments_of_bareAction?, fun ⟨only, plain⟩ => ?_⟩
  have member : action ∈ RoutePath.segments path := only ▸ List.mem_cons_self
  have clean := RoutePath.mem_segments_ne_slash member
  obtain ⟨word, listed, rfl⟩ := List.mem_map.mp member
  have written : word ≠ [] := by simpa using (List.mem_filter.mp listed).2
  have stripped : Text.strip (· = '/') path.toList = word := by
    refine Text.strip_of_words ?_
    obtain ⟨found, words, named⟩ := List.map_eq_singleton_iff.mp only
    rw [words, String.ofList_inj.mp named]
  rw [bareAction?, stripped]
  simpa [plain, written] using clean

theorem bareAction?_congr {path other : String}
    (same : RoutePath.segments other = RoutePath.segments path) :
    bareAction? other = bareAction? path := by
  ext action
  rw [bareAction?_eq_some_iff, bareAction?_eq_some_iff, same]

/-! ## Part 2 — readings -/

namespace DirectReading

/-- Paths with the same segments complete what is known in the same way. -/
theorem complete_congr {path other : String}
    (same : RoutePath.segments other = RoutePath.segments path) (legacy : Bool)
    (controller action : Option String) :
    complete other legacy controller action = complete path legacy controller action := by
  rw [complete, complete, RoutePath.splitPath?_congr same, RoutePath.defaultAction?_congr same]

/-- **Paths with the same segments give the same names**, or none with either. Why there is none may
be told with the path in it. -/
theorem names_repathed {reading : DirectReading} {other : String}
    (same : RoutePath.segments other = RoutePath.segments reading.path) (legacy : Bool) :
    (names { reading with path := other } legacy).toOption = (reading.names legacy).toOption := by
  unfold names
  cases reading.target with
  | skipped reason => rfl
  | full controller action => exact congrArg Except.toOption (complete_congr same _ _ _)
  | bare action =>
    dsimp only
    rw [complete_congr same]
  | unnamed =>
    dsimp only
    rw [complete_congr same, RoutePath.isCatchAll_congr same]
    split <;> rfl

end DirectReading

/-- What a direct route contributes is told by its names, whatever the reason if there are none. -/
theorem Contribution.ofOutcome_naming {naming twin : Naming}
    (names : twin.names.toOption = naming.names.toOption) (module : twin.module = naming.module)
    (line : Int) (namespaces : List String) :
    ofOutcome line (.ok (twin.outcome namespaces)) =
      ofOutcome line (.ok (naming.outcome namespaces)) := by
  obtain ⟨found, module'⟩ := naming
  obtain ⟨others, _⟩ := twin
  dsimp only at names module
  subst module
  cases found with
  | error reason =>
    cases others with
    | error other => rfl
    | ok other => cases names
  | ok pair =>
    cases others with
    | error other => cases names
    | ok other => rw [Option.some.inj names]

/-! ## Part 3 — calls -/

namespace Call

/-- **The calls differ in a path alone**: in a text that is the first argument, or that is the key
of the first mapping. -/
inductive Repathed (path other : String) (call : Call) : Call → Prop
  | ofArgument {rest : List Value} (written : call.arguments = some (.text path :: rest)) :
      Repathed path other call { call with arguments := some (.text other :: rest) }
  | ofMapping {front back : List (Atom × Value)} {target : Value}
      (first : ∀ entry ∈ front, (Value.atom entry.1).isText = false)
      (written : call.options = some (front ++ (.text path, target) :: back)) :
      Repathed path other call
        { call with options := some (front ++ (.text other, target) :: back) }

/-- What is mapped first. -/
theorem mapping?_of_front {call : Call} {front back : List (Atom × Value)} {path : String}
    {target : Value} (first : ∀ entry ∈ front, (Value.atom entry.1).isText = false)
    (written : call.options = some (front ++ (.text path, target) :: back)) :
    call.mapping? = .ok (some (.text path, target)) := by
  rw [mapping?, written]
  refine congrArg Except.ok ?_
  rw [List.find?_append, List.find?_eq_none.mpr, Option.none_or, List.find?_cons_of_pos rfl]
  intro entry inside
  have other := first entry inside
  revert other
  cases entry.1 <;> simp [Value.isText]

namespace Repathed

variable {path other : String} {call twin : Call} (repathed : Repathed path other call twin)
include repathed

theorem name : twin.name = call.name := by cases repathed <;> rfl

theorem line : twin.line = call.line := by cases repathed <;> rfl

theorem hasBlock : twin.hasBlock = call.hasBlock := by cases repathed <;> rfl

/-- A path is no option. -/
theorem keywordOptions : twin.keywordOptions = call.keywordOptions := by
  cases repathed with
  | ofArgument written => rfl
  | ofMapping first written =>
    rw [keywordOptions_eq, keywordOptions_eq, written]
    simp only [List.filterMap_append, List.filterMap_cons, Atom.symbolName?, Option.map_none]

/-- A path stays a text, so it names a route as before. -/
theorem form (around : Surroundings) : twin.form around = call.form around := by
  have named : twin.isNamedRoute around.parameters = call.isNamedRoute around.parameters := by
    rw [isNamedRoute_eq, isNamedRoute_eq]
    cases repathed with
    | ofArgument written =>
      rw [firstArgument?, firstArgument?, written]
      rfl
    | ofMapping first written => rfl
  rw [form_eq, form_eq, wordForm?_congr repathed.name repathed.hasBlock, receiverForm, receiverForm,
    named]

variable (same : RoutePath.segments other = RoutePath.segments path)
include same

/-- The action that a verb adds. -/
theorem extensionAction? : RouteTable.extensionAction? twin = RouteTable.extensionAction? call := by
  rw [extensionAction?_eq, extensionAction?_eq, repathed.keywordOptions]
  cases repathed with
  | @ofArgument rest written =>
    have mapping : mapping? { call with arguments := some (.text other :: rest) } =
        call.mapping? := rfl
    have named (own : Option String) : bareAction? ((own.or (some other)).getD "") =
        bareAction? ((own.or (some path)).getD "") := by
      cases own with
      | none => exact bareAction?_congr same
      | some action => rfl
    rw [mapping, firstLiteral?, firstLiteral?, firstArgument?, firstArgument?, written]
    simp only [Option.bind_some, List.head?_cons, Value.literal?, Atom.literal?, named]
  | ofMapping first written =>
    rw [mapping?_of_front first written, mapping?_of_front first rfl]
    rfl

/-- What is read of a verb or a named route is the same with another path of the same segments. -/
theorem directReading (defaults : Assoc String Value) :
    ReadAlike (fun reading twin => ∃ path, twin = { reading with path } ∧
        RoutePath.segments path = RoutePath.segments reading.path)
      (DirectReading.ofCall defaults call) (DirectReading.ofCall defaults twin) := by
  unfold DirectReading.ofCall
  rw [repathed.keywordOptions]
  cases call.keywordOptions with
  | error fault => exact .fault
  | ok own =>
    cases repathed with
    | @ofArgument rest written =>
      have mapping : mapping? { call with arguments := some (.text other :: rest) } =
          call.mapping? := rfl
      rw [mapping, firstLiteral?, firstLiteral?, firstArgument?, firstArgument?, written]
      cases call.mapping? with
      | error fault => exact .fault
      | ok mapped =>
        cases mapped with
        | none => exact .read ⟨other, rfl, same⟩
        | some entry => exact .read ⟨_, rfl, rfl⟩
    | ofMapping first written =>
      rw [mapping?_of_front first written, mapping?_of_front first rfl]
      exact .read ⟨other, rfl, same⟩

/-- Where a verb or a named route leads. -/
theorem directRoute (scopes : Scopes) (legacy : Bool) (line : Int) :
    Contribution.ofOutcome line (RouteTable.directRoute scopes legacy twin) =
      Contribution.ofOutcome line (RouteTable.directRoute scopes legacy call) := by
  rw [directRoute_eq, directRoute_eq]
  have read := repathed.directReading same scopes.defaults
  generalize DirectReading.ofCall scopes.defaults call = reading at *
  generalize DirectReading.ofCall scopes.defaults twin = others at *
  cases read with
  | fault => rfl
  | @read reading _ alike =>
    obtain ⟨path, rfl, kept⟩ := alike
    have names : (DirectReading.naming { reading with path } legacy).names.toOption =
        (reading.naming legacy).names.toOption := DirectReading.names_repathed kept legacy
    exact Contribution.ofOutcome_naming names rfl line _

/-- **A verb or a named route contributes the same with another path of the same segments.** -/
theorem ofCall_eq {around : Surroundings} (form : call.isVerb ∨ call.form around = .named) :
    Contribution.ofCall around twin = Contribution.ofCall around call := by
  have added : twin.addedName? around = call.addedName? around := by
    rw [addedName?, addedName?, repathed.extensionAction? same, repathed.keywordOptions]
  rcases form with verb | named
  · have read : call.form around = .verb := form_of_isVerb verb
    rw [Contribution.ofCall_verb read, Contribution.ofCall_verb ((repathed.form around).trans read),
      Contribution.ofVerb, Contribution.ofVerb, added, repathed.name, repathed.line,
      repathed.directRoute same]
  · rw [Contribution.ofCall_named named,
      Contribution.ofCall_named ((repathed.form around).trans named), repathed.line,
      repathed.directRoute same]

end Repathed

end Call

namespace Recognizer

/-- **Slashes in paths do not matter.** From every state, inside and outside of resource blocks: if
the path of a verb or of a named route, which is its first argument or the key of its mapping, is
replaced by a text with the same segments, then the call lists the same routes as before, and it
gives the innermost open resource the same names. -/
theorem walk_repathed {path other : String} {call twin : Call} {state : Recognizer}
    (form : call.isVerb ∨ call.form state.surroundings = .named)
    (repathed : call.Repathed path other twin)
    (same : RoutePath.segments other = RoutePath.segments path) :
    (walk [.call twin] state).registry = (walk [.call call] state).registry ∧
      (walk [.call twin] state).resources = (walk [.call call] state).resources := by
  refine walk_congr rfl rfl rfl ?_
  rw [Contribution.ofStatements_single, Contribution.ofStatements_single]
  exact repathed.ofCall_eq same form

/-- A path that is looked through for a bare name, for the path to every controller and for a
default action, in turn: in a resource block and inside a scope with a controller. -/
theorem walk_repathed_doubled :
    let get : Call := ⟨"get", 3, none, some [.text "shop/pages/:action"], some [], none⟩
    let twin : Call := { get with arguments := some [.text "//shop/pages///:action/"] }
    let state : Recognizer := {
      scopes := [.scoped (some "admin") (.text "pages")]
      resources := [⟨[], [], [], .collection⟩] }
    get.isVerb ∧ get.Repathed "shop/pages/:action" "//shop/pages///:action/" twin ∧
      RoutePath.segments "//shop/pages///:action/" = RoutePath.segments "shop/pages/:action" ∧
      (emitted [.call get] state).map (·.text) = ["Admin::PagesController#*"] ∧
      (walk [.call twin] state).registry = (walk [.call get] state).registry ∧
      (walk [.call twin] state).resources = (walk [.call get] state).resources := by
  intro get twin state
  have verb : get.isVerb := by decide
  have repathed : get.Repathed "shop/pages/:action" "//shop/pages///:action/" twin :=
    .ofArgument rfl
  have same : RoutePath.segments "//shop/pages///:action/" =
      RoutePath.segments "shop/pages/:action" := by
    decide +kernel
  exact ⟨verb, repathed, same, by decide +kernel, walk_repathed (.inl verb) repathed same⟩

end Recognizer

end RouteTable
