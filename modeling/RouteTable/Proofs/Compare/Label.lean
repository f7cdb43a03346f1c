/-
**Names as labels.**

The parameters of blocks and the identifiers that calls are made on are only compared with each
other; the name of a call that is not known, and that of a verb among the verbs of the present
dialect, is not read at all. So all of them may be exchanged for others of their kind.

* `isNamedRoute_renamed`: an injective renaming keeps which identifiers are block parameters;
* `process_relabelled`: relabelled trees declare the same.
-/

import RouteTable.Proofs.Compare.Trees

namespace RouteTable

/-- A receiver with an identifier renamed. -/
def Value.renamed (rename : String → String) : Value → Value
  | .atom (.identifier name) => .atom (.identifier (rename name))
  | value => value

namespace Call

/-- Names of calls that may stand for each other: names that are not known, and the verbs of the
present dialect. -/
def SameWord (name other : String) : Prop :=
  other = name ∨ (name ∉ knownNames ∧ other ∉ knownNames) ∨ (name ∈ verbs ∧ other ∈ verbs)

/-- Calls that differ in nothing but their blocks, a renaming of the identifiers they are made on,
and their names, which may stand for each other. -/
structure Relabelled (rename : String → String) (call twin : Call) : Prop where
  word : SameWord call.name twin.name
  line : twin.line = call.line
  receiver : twin.receiver = call.receiver.map (·.renamed rename)
  arguments : twin.arguments = call.arguments
  options : twin.options = call.options

variable {rename : String → String} {call twin : Call}

/-- An injective renaming keeps which identifiers are block parameters, also where one hides
another. -/
theorem isNamedRoute_renamed (injective : rename.Injective) (same : Relabelled rename call twin)
    (parameters : List String) :
    twin.isNamedRoute (parameters.map rename) = call.isNamedRoute parameters := by
  -- a name is among the renamed parameters only if it is itself among the parameters
  have kept (name : String) : (parameters.map rename).contains (rename name) =
      parameters.contains name := by
    rw [Bool.eq_iff_iff, List.contains_iff_mem, List.contains_iff_mem, List.mem_map]
    constructor
    · rintro ⟨other, member, equal⟩
      rwa [← injective equal]
    · intro member
      exact ⟨name, member, rfl⟩
  have first : twin.firstArgument? = call.firstArgument? := by
    rw [firstArgument?, firstArgument?, same.arguments]
  have receiver : twin.receiver.bind Value.identifier? =
      (call.receiver.bind Value.identifier?).map rename := by
    rw [same.receiver]
    cases call.receiver with
    | none => rfl
    | some receiver =>
      cases receiver with
      | atom plain => cases plain <;> rfl
      | array | hash | call => rfl
  rw [isNamedRoute_eq, isNamedRoute_eq, first, receiver]
  cases call.receiver.bind Value.identifier? with
  | none => rfl
  | some name => exact congrArg (· && _) (kept name)

/-- A verb of the present dialect is decided to be one by its name alone. -/
theorem wordForm?_verb {call : Call} (verb : call.name ∈ verbs) (inResource : Bool) :
    call.wordForm? inResource = some .verb := by
  refine wordForm?_of_isVerb ?_ inResource
  rw [isVerb, List.contains_iff_mem.mpr verb, Bool.true_or]

/-- Names that may stand for each other decide the same form. -/
theorem Relabelled.wordForm? (same : Relabelled rename call twin)
    (block : twin.hasBlock = call.hasBlock) (inResource : Bool) :
    twin.wordForm? inResource = call.wordForm? inResource := by
  rcases same.word with name | ⟨unknown, other⟩ | ⟨verb, other⟩
  · exact wordForm?_congr name block inResource
  · rw [wordForm?_unknown unknown, wordForm?_unknown other]
  · rw [wordForm?_verb verb, wordForm?_verb other]

/-- A call that is relabelled has the same plan. -/
theorem Relabelled.plan (injective : rename.Injective) (same : Relabelled rename call twin)
    (block : twin.hasBlock = call.hasBlock) {around other : Surroundings}
    (scopes : other.scopes = around.scopes) (grouping : other.grouping = around.grouping)
    (parameters : other.parameters = around.parameters.map rename) :
    Plan.ofCall other twin = Plan.ofCall around call := by
  have form : twin.form other = call.form around := by
    rw [form_eq, form_eq, grouping, same.wordForm? block, parameters, receiverForm, receiverForm,
      isNamedRoute_renamed injective same]
  rw [Plan.ofCall_form, Plan.ofCall_form, form]
  rcases same.word with name | ⟨unknown, -⟩ | ⟨verb, other⟩
  · exact Plan.ofForm_congr scopes grouping same.arguments same.options (fun _ => name)
      (fun _ => by rw [name])
  · rw [form_eq, wordForm?_unknown unknown, Option.getD_none, receiverForm]
    split <;>
      exact Plan.ofForm_congr scopes grouping same.arguments same.options (by simp) (by simp)
  · rw [form_eq, wordForm?_verb verb]
    have young {word : String} (verb : word ∈ verbs) : word ≠ legacyVerb := by
      rintro rfl
      revert verb
      decide
    exact Plan.ofForm_congr scopes grouping same.arguments same.options (by simp)
      (fun _ => iff_of_false (young other) (young verb))

end Call

/-- Trees that are relabelled. -/
def Comparison.labels (rename : String → String) : Comparison where
  calls _ := Call.Relabelled rename
  parameter := rename

/-- Relabelling changes no plan. -/
def Simulation.labels {rename : String → String} (injective : rename.Injective) :
    Simulation (.labels rename) :=
  .ofPlans (fun same => same.line) fun same calls block =>
    calls.plan injective block same.scopes.symm same.grouping same.parameters

/-- **Names are only labels.** Identifiers may be renamed injectively, as parameters of blocks and
where calls are made on them, names that are not known may be exchanged for others, and so may the
verbs of the present dialect, all at once and at any depth: a file declares the same routes in the
same order, on the same lines. -/
theorem Recognizer.process_relabelled {rename : String → String} (injective : rename.Injective)
    {statements others : List Value}
    (same : (Comparison.labels rename).Statements false statements others) (file : Option String)
    (state : Recognizer) : (process file others state).1 = (process file statements state).1 :=
  (Simulation.labels injective).process_same rfl same rfl file state

/-- A block parameter that hides the one around it, a named route on each of them, and a verb. -/
theorem Recognizer.process_relabelled_hidden :
    let rename (name : String) : String := name ++ "_"
    let tree (map label constraints verb : String) : List Value :=
      let login : Call := ⟨label, 3, some (.atom (.identifier map)), some [.text "/login"],
        some [(.symbol "controller", .text "sessions")], none⟩
      let visit : Call := ⟨verb, 4, none, some [.text "posts/show"], some [], none⟩
      let inner : Call := ⟨constraints, 2, some (.atom (.identifier map)), some [], some [],
        some ⟨some [map], some [.call login, .call visit]⟩⟩
      [.call ⟨"draw", 1, none, some [], some [], some ⟨some [map], some [.call inner]⟩⟩]
    let statements := tree "map" "login" "constraints" "get"
    let others := tree (rename "map") "enter" "limits" "post"
    rename.Injective ∧ (Comparison.labels rename).Statements false statements others ∧
      (process none statements {}).1.map (·.text) =
        ["SessionsController#index", "PostsController#show"] ∧
      (process none others {}).1 = (process none statements {}).1 := by
  intro rename tree statements others
  have injective : rename.Injective := fun first second equal => by
    simpa [rename] using equal
  have unread {name other : String} (unknown : name ∉ Call.knownNames ∧ other ∉ Call.knownNames) :
      Call.SameWord name other := .inr (.inl unknown)
  have same : (Comparison.labels rename).Statements false statements others :=
    .call ⟨.inl rfl, rfl, rfl, rfl, rfl⟩
      (.given (.call ⟨unread (by decide), rfl, rfl, rfl, rfl⟩
        (.given (.call ⟨unread (by decide), rfl, rfl, rfl, rfl⟩ .absent
          (.call ⟨.inr (.inr (by decide)), rfl, rfl, rfl, rfl⟩ .absent .nil))) .nil)) .nil
  exact ⟨injective, same, by decide +kernel, process_relabelled injective same none {}⟩

end RouteTable
