/-
**Actions of routes are named.**

An action comes from the standard set of a resource, from its options, from a verb in its block,
from a target, from an `:action` option, from a path or, for a root, from nothing at all. Every one
of these sources keeps empty texts out, but for one: a verb in a resource block that maps a path to
the symbol `:""` adds the empty text to the resource.

* `extensionAction?_empty_iff`: the only verbs that add the empty text;
* `DirectReading.names_action`, `RootReading.names_action`: a direct route has a named action;
* `processAll_actions`: without such verbs no route has an empty action.
-/

import RouteTable.Proofs.Walk.Every
import RouteTable.Proofs.Walk.Reading

namespace RouteTable

/-! ## Names in options -/

/-- An option lists no empty name. -/
theorem Value.namesOf_ne_empty {value : Value} {name : String}
    (listed : name ∈ value.namesOf.getD []) : name ≠ "" := by
  have filtered {texts : List String} (member : name ∈ nonempty texts) : name ≠ "" := by
    simpa using (List.mem_filter.mp member).2
  unfold namesOf at listed
  split at listed
  · cases listed
  · exact filtered listed
  · exact filtered listed
  · exact filtered listed

/-! ## Verbs in resource blocks -/

/-- The call maps a path to the symbol `:""`, and it names no other target and no controller. -/
def Call.MapsToNoName (call : Call) : Prop :=
  ∃ own key, call.keywordOptions = .ok own ∧ own.contains "to" = false ∧
    own.contains "controller" = false ∧ call.mapping? = .ok (some (key, .symbol ""))

theorem bareAction?_ne_empty {name action : String} (bare : bareAction? name = some action) :
    action ≠ "" := by
  unfold bareAction? at bare
  dsimp only at bare
  split at bare
  · cases bare
  · next kept =>
    obtain rfl := Option.some.inj bare
    rintro empty
    exact kept (by simp [empty])

theorem Value.symbol?_eq_some {value : Value} {name : String} (read : value.symbol? = some name) :
    value = .symbol name := by
  unfold symbol? at read
  split at read
  · exact congrArg Value.symbol (Option.some.inj read)
  · cases read

/-- A verb adds the empty text only by mapping a path to the symbol `:""`. -/
theorem extensionAction?_empty_iff (call : Call) :
    extensionAction? call = .ok (some "") ↔ call.MapsToNoName := by
  constructor
  · intro added
    rw [extensionAction?_eq] at added
    cases read : call.keywordOptions with
    | error fault =>
      rw [read] at added
      cases added
    | ok own =>
      cases mapped : call.mapping? with
      | error fault =>
        rw [read, mapped] at added
        cases added
      | ok mapping =>
        rw [read, mapped] at added
        have chosen := Except.ok.inj added
        split at chosen
        · cases chosen
        · next unnamed =>
          simp only [Bool.or_eq_true, not_or, Bool.not_eq_true] at unnamed
          cases mapping with
          | none => exact absurd rfl (bareAction?_ne_empty chosen)
          | some entry =>
            obtain ⟨key, value⟩ := entry
            obtain rfl := Value.symbol?_eq_some chosen
            exact ⟨own, key, read, unnamed.1, unnamed.2, mapped⟩
  · rintro ⟨own, key, read, target, controller, mapped⟩
    rw [extensionAction?_eq, read, mapped]
    simp [bind, Except.bind, pure, Except.pure, target, controller, Value.symbol?]

/-! ## Direct routes -/

/-- A target with a mark names both of its parts or none. -/
theorem RoutePath.splitTarget?_ne_empty {target : String} {names : String × String}
    (split : splitTarget? target = some names) : names.1 ≠ "" ∧ names.2 ≠ "" := by
  unfold splitTarget? at split
  split at split
  · next controller action _ =>
    split at split
    · cases split
    · next full =>
      obtain rfl := Option.some.inj split
      simp only [Bool.or_eq_true, List.isEmpty_iff, not_or] at full
      exact ⟨by simpa using full.1, by simpa using full.2⟩
  · cases split

/-- A verb or a named route that names anything names an action. -/
theorem DirectReading.names_action {reading : DirectReading} {legacy : Bool}
    {names : String × String} (read : reading.names legacy = .ok names) : names.2 ≠ "" := by
  obtain ⟨controller, action, completed, -⟩ := names_completed read
  exact (complete_ok completed).2.2.2

/-- What a root names in its target has a text on both sides of the mark. -/
theorem RootReading.namesIn_ne_empty {value : Value} {names : String × String}
    (named : namesIn value = some (some names)) : names.1 ≠ "" ∧ names.2 ≠ "" := by
  have split {content : String} (named : (if '#' ∈ content.toList then
      some (RoutePath.splitTarget? content) else none) = some (some names)) :
      names.1 ≠ "" ∧ names.2 ≠ "" := by
    split at named
    · exact RoutePath.splitTarget?_ne_empty (Option.some.inj named)
    · cases named
  unfold namesIn at named
  split at named
  · exact split named
  · exact split named
  · cases named

/-- A root that names anything names an action: that of its target, or else that of its options or
`index`. -/
theorem RootReading.names_action {defaults : Assoc String Value} {call : Call}
    {reading : RootReading} (given : ofCall defaults call = .ok reading)
    {names : String × String} (read : reading.naming.names = .ok names) : names.2 ≠ "" := by
  obtain ⟨own, -, target, -, -⟩ := ofCall_ok given
  rcases names_cases read with named | ⟨-, action⟩
  · exact (namesIn_ne_empty (target.symm.trans named)).2
  · rw [action]
    cases own : reading.action.filter (· ≠ "") with
    | none => decide
    | some action => simpa using (Option.filter_eq_some_iff.mp own).2

/-! ## Files -/

/-- Verbs in resource blocks map no path to the symbol `:""`. -/
def Call.AddsNamed (inResource : Bool) (call : Call) : Prop :=
  inResource → call.isVerb → ¬ call.MapsToNoName

/-- Actions are named where verbs in resource blocks add no empty name. -/
def CallRule.namedActions : CallRule (fun _ => True) (· ≠ "") where
  scopes _ := True
  calls := Call.AddsNamed
  standard kind := by cases kind <;> decide
  frame _ _ _ := trivial
  declaration _ _ read := by
    obtain ⟨own, names, -, -, -, member, collection⟩ := ResourceDeclaration.ofCall_ok read
    refine ⟨fun _ _ => trivial, fun name listed => ?_, fun name listed => ?_⟩
    · rw [member] at listed
      exact Value.namesOf_ne_empty listed
    · rw [collection] at listed
      exact Value.namesOf_ne_empty listed
  added asked verb bare := by
    rintro rfl
    exact asked rfl verb ((extensionAction?_empty_iff _).mp bare)
  direct _ _ leads := by
    obtain ⟨reading, controller, -, named, -⟩ := directRoute_route leads
    exact ⟨trivial, DirectReading.names_action named⟩
  root _ _ leads := by
    obtain ⟨reading, controller, given, named, -⟩ := rootRoute_route leads
    exact ⟨trivial, RootReading.names_action given named⟩

namespace Recognizer

/-- **No route has an empty action, unless a verb in a resource block maps a path to the symbol
`:""`.** Whatever else the calls of a sequence of files hold or lack, and whatever was read before:
the action of every route that is found in the files is a text that is not empty. -/
theorem processAll_actions {files : List RoutingFile}
    (added : ∀ file ∈ files, EveryCall Call.AddsNamed false file.statements) (state : Recognizer) :
    ∀ found ∈ (processAll files state).1, ∀ route ∈ found, route.action ≠ "" :=
  fun found listed route member =>
    (CallRule.namedActions.processAll_has trivial added state found listed route member).action

/-- A verb without a readable option, and a verb that maps its path to a symbol, in the block of a
resource with options; the other file holds a symbol `:""` outside of a resource block. -/
theorem processAll_actions_resource :
    let verb (target : String) : Call :=
      ⟨"get", 2, none, some [], some [(.text "preview", .symbol target)], none⟩
    let lost : Call := ⟨"put", 3, none, some [.symbol "publish"], none, none⟩
    let posts : Call := ⟨"resources", 1, none, some [.symbol "posts"],
      some [(.symbol "only", .symbol "index"), (.symbol "collection", .array [.symbol ""])],
      some ⟨some [], some [.call (verb "look"), .call lost]⟩⟩
    let files : List RoutingFile :=
      [⟨none, [.call posts]⟩, ⟨none, [.call (verb "")]⟩]
    (∀ file ∈ files, EveryCall Call.AddsNamed false file.statements) ∧
      (processAll files {}).1.map (·.map (·.text)) =
        [["PostsController#index", "PostsController#look"], []] ∧
      ∀ found ∈ (processAll files {}).1, ∀ route ∈ found, route.action ≠ "" := by
  intro verb lost posts files
  have named : ¬(verb "look").MapsToNoName := by
    rintro ⟨own, key, -, -, -, mapped⟩
    exact absurd mapped (by simp [verb, Call.mapping?])
  have unread : ¬lost.MapsToNoName := by
    rintro ⟨own, key, read, -⟩
    cases read
  have outside (call : Call) : Call.AddsNamed false call := fun inside =>
    absurd inside Bool.false_ne_true
  have added : ∀ file ∈ files, EveryCall Call.AddsNamed false file.statements := by
    intro file member
    simp only [files, List.mem_cons, List.not_mem_nil, or_false] at member
    rcases member with rfl | rfl
    · exact ⟨⟨outside posts, ⟨fun _ _ => named, trivial⟩, ⟨fun _ _ => unread, trivial⟩, trivial⟩,
        trivial⟩
    · exact ⟨⟨outside (verb ""), trivial⟩, trivial⟩
  exact ⟨added, by decide +kernel, processAll_actions added {}⟩

/-- A verb in a resource block that maps its path to the symbol `:""`: the last route of the
resource has an empty action. -/
theorem process_empty_action :
    let preview : Call := ⟨"get", 2, none, some [], some [(.text "preview", .symbol "")], none⟩
    let posts : Call := ⟨"resources", 1, none, some [.symbol "posts"], some [],
      some ⟨some [], some [.call preview]⟩⟩
    (process none [.call posts] {}).1.map (·.action) =
      ["index", "show", "new", "create", "edit", "update", "destroy", ""] := by
  decide +kernel

end Recognizer

end RouteTable
