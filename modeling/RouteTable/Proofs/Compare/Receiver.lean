/-
**Two dialects.**

The older dialect calls everything on a parameter of the block around it, `map.resources :posts`,
and the present one on nothing, `resources :posts`. A call that is recognized by its name is read
alike in both, since its receiver is looked at last and only if the name decides nothing.

* `wordForm?_of_isRecognized`: the name decides the form of a recognized call;
* `process_receivers`: trees that differ in the receivers of recognized calls declare the same.
-/

import RouteTable.Proofs.Compare.Trees

namespace RouteTable

namespace Call

/-- Whether a call is recognized by its name; some names need a block, and some of these a resource
block around the call. -/
def isRecognized (call : Call) (inResource : Bool) : Bool :=
  ["resources", "resource", "get", "post", "put", "patch", "delete", "match", "connect", "root",
      "concern"].contains call.name ||
    call.hasBlock && call.namesFrame ||
    call.hasBlock && inResource && ["member", "collection"].contains call.name

/-- What is recognized outside of a resource block is recognized inside one. -/
theorem isRecognized_mono {call : Call} {inResource inside : Bool} (enters : inResource → inside)
    (recognized : call.isRecognized inResource) : call.isRecognized inside := by
  cases inResource with
  | true => rwa [enters rfl]
  | false =>
    rw [isRecognized, Bool.and_false, Bool.false_and, Bool.or_false] at recognized
    rw [isRecognized, recognized, Bool.true_or]

/-- The name of a recognized call decides its form. -/
theorem wordForm?_of_isRecognized {call : Call} {inResource : Bool}
    (recognized : call.isRecognized inResource) : (call.wordForm? inResource).isSome := by
  simp only [isRecognized, Bool.or_eq_true, Bool.and_eq_true] at recognized
  rcases recognized with (word | ⟨block, frame⟩) | ⟨⟨block, inside⟩, word⟩
  · simp only [List.contains_cons, List.contains_nil, Bool.or_false, Bool.or_eq_true,
      beq_iff_eq] at word
    unfold wordForm? isVerb verbs legacyVerb ResourceKind.ofWord?
    rcases word with word | word | word | word | word | word | word | word | word | word | word
    all_goals simp [word, namesFrame, Grouping.ofWord?]
  · rw [wordForm?]
    cases ResourceKind.ofWord? call.name with
    | some kind => rfl
    | none => simp [block, frame]
  · rw [wordForm?, block, inside]
    simp only [List.contains_cons, List.contains_nil, Bool.or_false, Bool.or_eq_true,
      beq_iff_eq] at word
    rcases word with word | word
    all_goals simp [word, namesFrame, Grouping.ofWord?, ResourceKind.ofWord?]

/-- Calls that differ in nothing but their blocks and, where the name is recognized, in their
receivers. -/
structure SameButReceiver (inResource : Bool) (call twin : Call) : Prop where
  name : twin.name = call.name
  line : twin.line = call.line
  arguments : twin.arguments = call.arguments
  options : twin.options = call.options
  receiver : twin.receiver = call.receiver ∨ call.isRecognized inResource

/-- A receiver does not change the form of a recognized call. -/
theorem SameButReceiver.form {inResource : Bool} {call twin : Call}
    (same : SameButReceiver inResource call twin) (block : twin.hasBlock = call.hasBlock)
    {around : Surroundings} (inside : inResource → around.grouping.isSome) :
    twin.form around = call.form around := by
  rw [form_eq, form_eq, wordForm?_congr same.name block]
  rcases same.receiver with receiver | recognized
  -- the receiver is the same, or it is not looked at
  · have named : twin.receiverForm around.parameters = call.receiverForm around.parameters := by
      rw [receiverForm, receiverForm, isNamedRoute, isNamedRoute, firstArgument?, firstArgument?,
        receiver, same.arguments]
    rw [named]
  · obtain ⟨form, decided⟩ := Option.isSome_iff_exists.mp
      (wordForm?_of_isRecognized (isRecognized_mono inside recognized))
    rw [decided]
    rfl

end Call

/-- Trees of which the recognized calls may be called on anything, such as on a parameter of a block
around them, or on nothing. -/
def Comparison.receivers : Comparison where
  calls := Call.SameButReceiver

/-- Receivers of recognized calls change no plan. -/
def Simulation.receivers : Simulation .receivers :=
  .ofPlans Call.SameButReceiver.line <| by
    intro inResource around other call twin same calls block
    have equal : other = around := by
      obtain ⟨scopes, parameters, grouping⟩ := other
      have renamed := same.parameters.trans (List.map_id _)
      have scope := same.scopes
      have group := same.grouping
      dsimp only at renamed scope group
      rw [← scope, renamed, group]
    rw [equal, Plan.ofCall_form, Plan.ofCall_form, calls.form block same.inResource]
    exact Plan.ofForm_congr rfl rfl calls.arguments calls.options (fun _ => calls.name)
      (fun _ => by rw [calls.name])

/-- **Both dialects declare the same routes.** Receivers may be given to recognized calls or taken
from them, at any depth and at once, also with parts missing: a file declares the same routes in the
same order, on the same lines. -/
theorem Recognizer.process_receivers {statements others : List Value}
    (same : Comparison.receivers.Statements false statements others) (file : Option String)
    (state : Recognizer) : (process file others state).1 = (process file statements state).1 :=
  Simulation.receivers.process_same rfl same rfl file state

/-- A verb in a `collection` block of a resource, with every receiver of the older dialect and with
none. -/
theorem Recognizer.process_receivers_collection :
    let tree (map posts all : Option Value) : List Value :=
      let search : Call := ⟨"get", 4, all, some [.symbol "search"], some [], none⟩
      let collection : Call :=
        ⟨"collection", 3, posts, some [], some [], some ⟨some ["all"], some [.call search]⟩⟩
      let resources : Call := ⟨"resources", 2, map, some [.symbol "posts"],
        some [(.symbol "only", .symbol "index")], some ⟨some ["posts"], some [.call collection]⟩⟩
      [.call ⟨"draw", 1, none, some [], some [], some ⟨some ["map"], some [.call resources]⟩⟩]
    let older := tree (some (.atom (.identifier "map"))) (some (.atom (.identifier "posts")))
      (some (.atom (.identifier "all")))
    let present := tree none none none
    Comparison.receivers.Statements false older present ∧
      (process none older {}).1.map (·.text) = ["PostsController#index", "PostsController#search"] ∧
      (process none present {}).1 = (process none older {}).1 := by
  intro tree older present
  have same : Comparison.receivers.Statements false older present :=
    .call ⟨rfl, rfl, rfl, rfl, .inl rfl⟩
      (.given (.call ⟨rfl, rfl, rfl, rfl, .inr (by decide)⟩
        (.given (.call ⟨rfl, rfl, rfl, rfl, .inr (by decide)⟩
          (.given (.call ⟨rfl, rfl, rfl, rfl, .inr (by decide)⟩ .absent .nil)) .nil)) .nil)) .nil
  exact ⟨same, by decide +kernel, process_receivers same none {}⟩

end RouteTable
