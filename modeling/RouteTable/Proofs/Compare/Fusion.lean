/-
**Modules inside modules.**

A `namespace` block and a `scope` block with a module do one thing: they put namespaces around what
is inside them. So it does not matter which of the two is used, and one inside the other is one of
them with both names and a slash between.

* `Scopes.AddsSegments`: frames that add namespaces and do nothing else;
* `Contribution.inside_same`: where the same namespaces are added, a block contributes the same;
* `Call.OpensModule`: the calls that put a module around their block;
* `walk_fused`: modules one inside the other, and the module with both names.
-/

import RouteTable.Proofs.Compare.Namespace
import RouteTable.Proofs.Routes.Segment

namespace RouteTable

/-! ## Scopes -/

/-- **The inner scopes add namespaces to those of the outer ones, and nothing else.** -/
structure Scopes.AddsSegments (segments : List String) (outer inner : Scopes) : Prop where
  namespaces : inner.controllerNamespaces = outer.controllerNamespaces ++ segments
  defaults : inner.defaults = outer.defaults
  resourceDefaults : inner.resourceDefaults = outer.resourceDefaults

namespace Scopes.AddsSegments

variable {segments others : List String} {outer middle inner : Scopes}

theorem refl (scopes : Scopes) : AddsSegments [] scopes scopes :=
  ⟨(List.append_nil _).symm, rfl, rfl⟩

theorem trans (one : AddsSegments segments outer middle) (two : AddsSegments others middle inner) :
    AddsSegments (segments ++ others) outer inner where
  namespaces := by rw [two.namespaces, one.namespaces, List.append_assoc]
  defaults := two.defaults.trans one.defaults
  resourceDefaults := two.resourceDefaults.trans one.resourceDefaults

/-- A frame that hands no options down adds its segments. -/
theorem cons (frame : Frame) (quiet : frame.defaults = []) (silent : frame.resourceDefaults = [])
    (outer : Scopes) :
    AddsSegments (camelizeSegments (frame.segment?.getD "")) outer (frame :: outer) where
  namespaces := controllerNamespaces_cons frame outer
  defaults := by rw [defaults_cons, quiet]; rfl
  resourceDefaults := by rw [resourceDefaults_cons, silent]; rfl

/-- Scopes that add the same to the same scopes are read alike. -/
theorem inside (one : AddsSegments segments outer middle)
    (other : AddsSegments segments outer inner) : Inside [] middle inner where
  namespaces := other.namespaces.trans one.namespaces.symm
  defaults := other.defaults.trans one.defaults.symm
  resourceDefaults := other.resourceDefaults.trans one.resourceDefaults.symm

end Scopes.AddsSegments

/-! ## Blocks -/

namespace Contribution

/-- Where the same namespaces are added, a block contributes the same. -/
theorem inside_same {segments : List String} {outer first second : Scopes}
    (one : Scopes.AddsSegments segments outer first)
    (other : Scopes.AddsSegments segments outer second) (around : Surroundings) (block : Block) :
    inside (some fun inner => ofBlock inner block) { around with scopes := second } =
      inside (some fun inner => ofBlock inner block) { around with scopes := first } := by
  have still : ControllerId.within [] = id := rfl
  rw [inside_within (one.inside other), still, moved_id]

/-- A block without parameters contributes what its statements do. -/
theorem inside_plain (around : Surroundings) (body : List Value) :
    inside (some fun inner => ofBlock inner ⟨some [], some body⟩) around =
      ofStatements around body :=
  rfl

end Contribution

/-! ## Calls -/

namespace Call

/-- **The call puts a module around its block**, either as a namespace or as a scope, which hands no
controller down. -/
inductive OpensModule (name : String) (call : Call) : Prop
  | ofNamespace (word : call.name = "namespace") (named : call.firstLiteral? = some name)
  | ofScope {own : Assoc String Value} (word : call.name = "scope")
      (read : call.keywordOptions = .ok own)
      (named : (optionValue own "module").literal? = some name)
      (plain : optionValue own "controller" = .nothing)

variable {name : String} {call : Call}

theorem OpensModule.namesFrame (opens : call.OpensModule name) : call.namesFrame := by
  cases opens with
  | ofNamespace word => simp [Call.namesFrame, word]
  | ofScope word => simp [Call.namesFrame, word]

/-- The frame of a module adds its segments; the empty name has no frame of its own as a
namespace, and one without a segment as a scope. -/
theorem OpensModule.frame? (opens : call.OpensModule name) :
    ∃ opened, call.frame? = .ok opened ∧
      ∀ outer, Scopes.AddsSegments (camelizeSegments name) outer (opened.toList ++ outer) := by
  cases opens with
  | ofNamespace word named =>
    have read : call.frame? = .ok (((some name).filter (· ≠ "")).map .namespaced) :=
      named ▸ frame?_namespace word
    refine ⟨_, read, fun outer => ?_⟩
    by_cases empty : name = ""
    · subst empty
      exact .refl outer
    · rw [Option.filter_some, if_pos (by simpa using empty)]
      exact .cons (.namespaced name) rfl rfl outer
  | @ofScope own word read named plain =>
    have read : call.frame? = .ok (some (.scoped (some name) .nothing)) := by
      rw [frame?_scope read word, named, plain]
    exact ⟨_, read, fun outer => .cons (.scoped (some name) .nothing) rfl rfl outer⟩

end Call

/-- What a call with a module contributes is what its block contributes with the segments of the
module added. -/
theorem Contribution.ofCall_module {name : String} {call : Call} (opens : call.OpensModule name)
    {block : Block} (given : call.block = some block) (around : Surroundings) :
    ∃ scopes, Scopes.AddsSegments (camelizeSegments name) around.scopes scopes ∧
      ofCall around call =
        inside (some fun inner => ofBlock inner block) { around with scopes } := by
  obtain ⟨opened, frame, adds⟩ := opens.frame?
  exact ⟨opened.toList ++ around.scopes, adds around.scopes,
    ofCall_opens around given opens.namesFrame frame⟩

namespace Recognizer

/-- **One module inside another is one module.** A slash between two texts cuts them apart, so the
segments of both together are those of the first and then those of the second. And from every
state, with every block, also one that cannot be gone through: a call with a module around a call
with another module, and a call with both names, each as a namespace or as a scope, list the same
routes in the same order and give the innermost open resource the same names. -/
theorem walk_fused (first second : String) :
    camelizeSegments (first ++ "/" ++ second) =
        camelizeSegments first ++ camelizeSegments second ∧
      ∀ {outer inner fused : Call} {block : Block}, outer.OpensModule first →
        inner.OpensModule second → fused.OpensModule (first ++ "/" ++ second) →
        outer.block = some ⟨some [], some [.call inner]⟩ → inner.block = some block →
        fused.block = some block → ∀ state,
          (walk [.call outer] state).registry = (walk [.call fused] state).registry ∧
            (walk [.call outer] state).resources = (walk [.call fused] state).resources := by
  have segments := camelizeSegments_append first second
  refine ⟨segments, ?_⟩
  intro outer inner fused block outside inside whole around within given state
  -- the nested call adds the segments in two steps, the other one in one
  obtain ⟨middle, one, outerAdds⟩ := Contribution.ofCall_module outside around state.surroundings
  obtain ⟨innermost, two, innerAdds⟩ := Contribution.ofCall_module inside within
    { state.surroundings with scopes := middle }
  obtain ⟨scopes, both, fusedAdds⟩ := Contribution.ofCall_module whole given state.surroundings
  rw [segments] at both
  have same : Contribution.ofStatements state.surroundings [.call outer] =
      Contribution.ofStatements state.surroundings [.call fused] := by
    rw [Contribution.ofStatements_single, Contribution.ofStatements_single, outerAdds,
      Contribution.inside_plain, Contribution.ofStatements_single, innerAdds, fusedAdds]
    exact Contribution.inside_same both (one.trans two) state.surroundings block
  exact walk_congr rfl rfl rfl same

/-- A scope inside a namespace, with a colon on both sides of the slash, around a resource and a
verb for the resource that is open. -/
theorem walk_fused_colons :
    let search : Call := ⟨"get", 4, none, some [.symbol "search"], some [], none⟩
    let posts : Call := ⟨"resources", 3, none, some [.symbol "posts"],
      some [(.symbol "only", .symbol "index")], none⟩
    let block : Block := ⟨some ["v1"], some [.call posts, .call search]⟩
    let inner : Call :=
      ⟨"scope", 2, none, some [], some [(.symbol "module", .text ":v1")], some block⟩
    let outer : Call := ⟨"namespace", 1, none, some [.text "shop::api:"], some [],
      some ⟨some [], some [.call inner]⟩⟩
    let fused : Call := ⟨"namespace", 1, none, some [.text "shop::api:/:v1"], some [], some block⟩
    let state : Recognizer := { resources := [⟨[⟨[], "Users"⟩], [], [], .member⟩] }
    outer.OpensModule "shop::api:" ∧ inner.OpensModule ":v1" ∧
      fused.OpensModule "shop::api:/:v1" ∧
      (emitted [.call outer] state).map (·.text) = ["Shop::Api::::v1::PostsController#index"] ∧
      (walk [.call outer] state).registry = (walk [.call fused] state).registry ∧
      (walk [.call outer] state).resources = (walk [.call fused] state).resources := by
  intro search posts block inner outer fused state
  have outside : outer.OpensModule "shop::api:" := .ofNamespace rfl rfl
  have inside : inner.OpensModule ":v1" := .ofScope rfl rfl rfl rfl
  have whole : fused.OpensModule ("shop::api:" ++ "/" ++ ":v1") := .ofNamespace rfl (by decide)
  obtain ⟨-, same⟩ := walk_fused "shop::api:" ":v1"
  exact ⟨outside, inside, whole, by decide +kernel, same outside inside whole rfl rfl rfl state⟩

end Recognizer

end RouteTable
