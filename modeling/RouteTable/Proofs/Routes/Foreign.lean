/-
**Calls on something else than a block parameter.**

`Sidekiq::Web.set "sessions/secret"` has the shape of a named route, but it is made on a constant
and declares nothing. The receiver is what tells the two apart, and it is looked at last: a call
whose name is that of a resource, of a verb or of a root declares whatever it is made on.

* `Call.form_foreign`: without a block and without a declaring name, such a call is no route;
* `Plan.ofCall_receiver`: of a call with a declaring name the receiver is not looked at;
* `dispatch_foreign`: what a call without a block does, on anything but a block parameter;
* `process_cache_delete`: a call on a constant that declares a route by its name.
-/

import RouteTable.Proofs.Compare.Receiver

namespace RouteTable

namespace Call

/-- The names of calls that declare something without a block. -/
def declaringNames : List String :=
  ["resources", "resource", "get", "post", "put", "patch", "delete", "match", "connect", "root"]

/-- The call is made on something else than a block parameter: on a constant, on a call, on a
literal, on another identifier or on nothing. -/
def IsForeign (call : Call) (parameters : List String) : Prop :=
  ∀ name ∈ call.receiver.bind Value.identifier?, name ∉ parameters

instance (call : Call) (parameters : List String) : Decidable (call.IsForeign parameters) :=
  inferInstanceAs (Decidable (∀ name ∈ call.receiver.bind Value.identifier?, name ∉ parameters))

variable {call : Call}

/-- A foreign call is no named route. -/
theorem receiverForm_foreign {parameters : List String} (foreign : call.IsForeign parameters) :
    call.receiverForm parameters = .unknown := by
  have unnamed : call.isNamedRoute parameters = false := by
    rw [isNamedRoute_eq]
    cases receiver : call.receiver.bind Value.identifier? with
    | none => rfl
    | some name =>
      have absent : parameters.contains name = false := by
        simpa using foreign name receiver
      rw [Option.any_some, absent, Bool.false_and]
  rw [receiverForm, unnamed]
  rfl

/-- Without a block, a name that declares nothing decides nothing, or it names a template. -/
theorem wordForm?_silent (plain : call.block = none) (silent : call.name ∉ declaringNames)
    (inResource : Bool) :
    call.wordForm? inResource = none ∨ call.wordForm? inResource = some .template := by
  have blockless : call.hasBlock = false := by rw [hasBlock, plain]; rfl
  simp only [declaringNames, List.mem_cons, List.not_mem_nil, or_false, not_or] at silent
  by_cases template : call.name = "concern"
  · right
    simp [wordForm?, template, blockless, ResourceKind.ofWord?, isVerb, verbs, legacyVerb]
  · left
    simp [wordForm?, template, blockless, silent, ResourceKind.ofWord?, isVerb, verbs, legacyVerb]

/-- A foreign call without a block and without a declaring name is read as a template or not at
all. -/
theorem form_foreign {around : Surroundings} (plain : call.block = none)
    (silent : call.name ∉ declaringNames) (foreign : call.IsForeign around.parameters) :
    call.form around = .template ∨ call.form around = .unknown := by
  rw [form_eq]
  rcases wordForm?_silent plain silent around.grouping.isSome with nothing | template
  · right
    rw [nothing, Option.getD_none, receiverForm_foreign foreign]
  · left
    rw [template, Option.getD_some]

/-- A call with a declaring name is recognized by it. -/
theorem isRecognized_of_declaring (declaring : call.name ∈ declaringNames) (inResource : Bool) :
    call.isRecognized inResource := by
  have listed : (declaringNames ++ ["concern"]).contains call.name = true :=
    List.contains_iff_mem.mpr (List.mem_append_left _ declaring)
  rw [isRecognized, Bool.or_assoc, Bool.or_eq_true]
  exact .inl listed

end Call

/-- What a foreign call without a block and without a declaring name contributes. -/
theorem Contribution.ofCall_foreign {call : Call} {around : Surroundings}
    (plain : call.block = none) (silent : call.name ∉ Call.declaringNames)
    (foreign : call.IsForeign around.parameters) : ofCall around call = {} := by
  have bodiless : bodyOf call = none := by rw [bodyOf, plain]; rfl
  rcases Call.form_foreign plain silent foreign with template | unknown
  · rw [ofCall_planned, Plan.ofCall_form, template]
    rfl
  · rw [ofCall_unknown unknown, bodiless]
    rfl

/-- Of a call with a declaring name the receiver is not looked at. -/
theorem Plan.ofCall_receiver {call : Call} (declaring : call.name ∈ Call.declaringNames)
    (receiver : Option Value) (around : Surroundings) :
    ofCall around { call with receiver } = ofCall around call := by
  have same : Call.SameButReceiver around.grouping.isSome call { call with receiver } :=
    ⟨rfl, rfl, rfl, rfl, .inr (Call.isRecognized_of_declaring declaring _)⟩
  have form : Call.form { call with receiver } around = call.form around := same.form rfl id
  rw [ofCall_form, ofCall_form, form]
  exact ofForm_congr rfl rfl rfl rfl (fun _ => rfl) fun _ => Iff.rfl

namespace Recognizer

/-- **A call without a block on anything but a block parameter declares nothing, unless its name
declares.** From every state, whatever the arguments and options are and whatever is missing: if the
call is made on a constant, on a call or on a literal, or on any other value that is no parameter of
a block around it, then no route is listed and no name is added to a resource, provided that the
name of the call is not that of a resource, of a verb or of a root. With such a name the call does
what it does on every other receiver and on none. -/
theorem dispatch_foreign {call : Call} {state : Recognizer} (plain : call.block = none)
    (foreign : call.IsForeign state.parameters) :
    (call.name ∉ Call.declaringNames → Adds {} state (dispatch call state).1) ∧
      (call.name ∈ Call.declaringNames → ∀ receiver,
        dispatch { call with receiver } state = dispatch call state) := by
  constructor
  · intro silent
    have added := dispatch_adds call state
    rwa [Contribution.ofCall_foreign plain silent foreign] at added
  · intro declaring receiver
    have planned := Plan.ofCall_receiver declaring receiver state.surroundings
    obtain ⟨name, line, own, arguments, options, block⟩ := call
    rw [dispatch.eq_def, dispatch.eq_def]
    dsimp only at planned ⊢
    rw [planned]

/-- A call on a constant with a text for its first argument and with a target, in the block of a
resource and of a `map`; and a verb on the same constant. -/
theorem dispatch_foreign_constant :
    let rails : Option Value := some (.atom (.identifier "Rails"))
    let info : Call :=
      ⟨"info", 3, rails, some [.text "posts/all"], some [(.symbol "to", .text "posts#all")], none⟩
    let get : Call := { info with name := "get" }
    let state : Recognizer := { parameters := ["map"], resources := [⟨[], [], [], .member⟩] }
    info.block = none ∧ info.IsForeign state.parameters ∧
      Adds {} state (dispatch info state).1 ∧
      dispatch { get with receiver := none } state = dispatch get state := by
  intro rails info get state
  have plain : info.block = none := rfl
  have foreign : info.IsForeign state.parameters := by decide
  obtain ⟨silent, -⟩ := dispatch_foreign plain foreign
  have bare : get.block = none := rfl
  have constant : get.IsForeign state.parameters := foreign
  obtain ⟨-, declaring⟩ := dispatch_foreign bare constant
  exact ⟨plain, foreign, silent (by decide), declaring (by decide) none⟩

/-- `Rails.cache.delete "posts/all"`: the call is made on another call, and its name makes it a
verb. -/
theorem process_cache_delete :
    let cache : Call :=
      ⟨"cache", 1, some (.atom (.identifier "Rails")), some [], some [], none⟩
    let delete : Call := ⟨"delete", 1, some (.call cache), some [.text "posts/all"], some [], none⟩
    delete.IsForeign [] ∧
      (process none [.call delete] {}).1.map (·.text) = ["PostsController#all"] := by
  decide +kernel

end Recognizer

end RouteTable
