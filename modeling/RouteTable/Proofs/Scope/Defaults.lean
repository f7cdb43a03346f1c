/-
**The innermost default wins.**

A call takes over the default options of the frames around it, and those that it writes itself come
on top. A name has the value of the innermost frame that hands it down; its place is that of the
outermost one, since a later value does not move a name. A resource takes over what `with_options`
hands down and nothing else, so the other frames may as well be away.

* `Assoc.InnermostWins`: maps that are laid over each other;
* `Assoc.InnermostWins.merge`: one more map on top;
* `Scopes.resourceDefaults_eq`: what a resource takes over is what `with_options` frames hand down;
* `Plan.ofCall_congr`: of the options of frames and calls, only the merged ones are read;
* `Scopes.innermost_default_wins`: what frames hand down, and what a call sees.
-/

import RouteTable.Plan
import RouteTable.Proofs.Options
import RouteTable.Proofs.Walk.Reading

namespace RouteTable

/-! ## Part 1 — maps over maps -/

namespace Assoc

variable {κ ν : Type} [DecidableEq κ]

/-- **The map is what maps give that are laid over each other**, the first one on top: a key has the
value of the first map that has the key, and none if there is no such map; the keys are different
and in order of first occurrence from the last map on. -/
structure InnermostWins (maps : List (Assoc κ ν)) (map : Assoc κ ν) : Prop where
  value : ∀ key, map.get? key = maps.findSome? fun inner => inner.get? key
  distinct : map.keys.Nodup
  ordered : map.keys = (maps.reverse.flatMap keys).eraseDups

namespace InnermostWins

theorem empty : InnermostWins [] ([] : Assoc κ ν) where
  value _ := rfl
  distinct := .nil
  ordered := rfl

/-- One more map on top. -/
theorem merge {maps : List (Assoc κ ν)} {map inner : Assoc κ ν} (outer : InnermostWins maps map)
    (distinct : inner.keys.Nodup) : InnermostWins (inner :: maps) (map.merge inner) where
  value key := by
    rw [get?_merge, get?_reverse distinct, List.findSome?_cons, outer.value]
    cases inner.get? key <;> rfl
  distinct := keys_merge_nodup outer.distinct inner
  ordered := by
    rw [List.reverse_cons, List.flatMap_append, List.flatMap_singleton]
    exact keys_foldl_put_append Prod.fst (fun _ entry => entry.2) inner outer.ordered

end InnermostWins

end Assoc

/-! ## Part 2 — what frames hand down -/

/-- Whether the frame is that of a `with_options` block. -/
def Frame.isWithOptions : Frame → Bool
  | .withOptions _ => true
  | _ => false

namespace Scopes

/-- The frames of `with_options` blocks. -/
def optionFrames (scopes : Scopes) : Scopes := scopes.filter Frame.isWithOptions

/-- What a resource takes over is what the frames of `with_options` blocks hand down. -/
theorem resourceDefaults_eq (scopes : Scopes) :
    scopes.resourceDefaults = scopes.optionFrames.defaults := by
  induction scopes with
  | nil => rfl
  | cons frame outer ih =>
    rw [resourceDefaults_cons, ih]
    cases frame <;> rfl

/-- Each frame hands a name down once at most. -/
def Distinct (scopes : Scopes) : Prop := ∀ frame ∈ scopes, frame.defaults.keys.Nodup

instance (scopes : Scopes) : Decidable scopes.Distinct :=
  inferInstanceAs (Decidable (∀ frame ∈ scopes, frame.defaults.keys.Nodup))

theorem defaults_innermostWins {scopes : Scopes} (distinct : scopes.Distinct) :
    Assoc.InnermostWins (scopes.map Frame.defaults) scopes.defaults := by
  induction scopes with
  | nil => exact .empty
  | cons frame outer ih =>
    have further := ih fun other listed => distinct other (List.mem_cons_of_mem frame listed)
    exact further.merge (distinct frame List.mem_cons_self)

end Scopes

namespace Call

/-- A call has one value for each of its options by name. -/
theorem keywordOptions_nodup {call : Call} {own : Assoc String Value}
    (read : call.keywordOptions = .ok own) : own.keys.Nodup := by
  rw [keywordOptions_eq] at read
  split at read
  · cases read
  · obtain rfl := Except.ok.inj read
    exact Assoc.keys_ofEntries_nodup _

/-- The frames that calls open hand a name down once at most. -/
theorem frame?_distinct {call : Call} {frame : Frame} (opened : call.frame? = .ok (some frame)) :
    frame.defaults.keys.Nodup := by
  rcases frame with name | ⟨module, controller⟩ | defaults
  · exact .nil
  · rw [Frame.defaults]
    split
    · exact List.pairwise_singleton _ _
    · exact .nil
  · suffices read : call.keywordOptions = .ok defaults from keywordOptions_nodup read
    unfold frame? at opened
    generalize call.keywordOptions = own at *
    split at opened
    · cases own <;> cases opened
    · split at opened
      · cases opened
      · split at opened
        · cases own <;> cases opened
          rfl
        · split at opened
          · obtain ⟨name, -, other⟩ := Option.map_eq_some_iff.mp (Except.ok.inj opened)
            cases other
          · cases opened

/-- The options that a call sees: its own over those that are handed down. -/
def optionsOver (defaults : Assoc String Value) (call : Call) :
    Except ShapeFault (Assoc String Value) :=
  call.keywordOptions.map defaults.merge

end Call

/-! ## Part 3 — what is read of options -/

section Readings

variable {defaults others : Assoc String Value} {call : Call}
variable (same : call.optionsOver others = call.optionsOver defaults)
include same

theorem Call.merge_eq {own : Assoc String Value} (read : call.keywordOptions = .ok own) :
    others.merge own = defaults.merge own := by
  rw [Call.optionsOver, Call.optionsOver, read] at same
  exact Except.ok.inj same

theorem DirectReading.ofCall_congr : ofCall others call = ofCall defaults call := by
  unfold ofCall
  cases read : call.keywordOptions with
  | error fault => rfl
  | ok own => simp only [bind, Except.bind, Call.merge_eq same read]

theorem RootReading.ofCall_congr : ofCall others call = ofCall defaults call := by
  unfold ofCall
  cases read : call.keywordOptions with
  | error fault => rfl
  | ok own => simp only [bind, Except.bind, Call.merge_eq same read]

end Readings

/-- A declaration is read off the options that a resource sees. -/
theorem ResourceDeclaration.ofCall_optionsOver (scopes : Scopes) (call : Call) :
    ofCall scopes call = do
      let options ← call.optionsOver scopes.resourceDefaults
      let names ← call.literalArguments
      return ofOptions scopes names options := by
  rw [ofCall_eq, Call.optionsOver]
  cases call.keywordOptions <;> rfl

theorem ResourceDeclaration.ofCall_congr {scopes others : Scopes} {call : Call}
    (namespaces : others.controllerNamespaces = scopes.controllerNamespaces)
    (options : call.optionsOver others.resourceDefaults =
      call.optionsOver scopes.resourceDefaults) : ofCall others call = ofCall scopes call := by
  rw [ofCall_optionsOver, ofCall_optionsOver, options]
  unfold ofOptions Scopes.controllersOf Scopes.controllerOf?
  rw [namespaces]

/-- **Of the frames around it a call sees nothing but their namespaces and their options under its
own.** -/
theorem Plan.ofCall_congr {around other : Surroundings} {call : Call}
    (namespaces : other.scopes.controllerNamespaces = around.scopes.controllerNamespaces)
    (options : call.optionsOver other.scopes.defaults = call.optionsOver around.scopes.defaults)
    (resourceOptions : call.optionsOver other.scopes.resourceDefaults =
      call.optionsOver around.scopes.resourceDefaults)
    (parameters : other.parameters = around.parameters)
    (grouping : other.grouping = around.grouping) :
    ofCall other call = ofCall around call := by
  have declared : ResourceDeclaration.ofCall other.scopes call =
      ResourceDeclaration.ofCall around.scopes call :=
    ResourceDeclaration.ofCall_congr namespaces resourceOptions
  have direct (legacy : Bool) :
      directRoute other.scopes legacy call = directRoute around.scopes legacy call := by
    rw [directRoute_eq, directRoute_eq, DirectReading.ofCall_congr options, namespaces]
  have root : rootRoute other.scopes call = rootRoute around.scopes call := by
    rw [rootRoute_eq, rootRoute_eq, RootReading.ofCall_congr options, namespaces]
  have verb : ofVerb other call = ofVerb around call := by
    unfold ofVerb
    rw [direct, grouping]
  have others : ofOther other call = ofOther around call := by
    unfold ofOther
    rw [verb, root, direct, parameters]
  unfold ofCall
  rw [declared, others, grouping]

/-! ## Part 4 — what frames hand down and what a call sees -/

/-- **The innermost default wins.** For all frames, each of which hands a name down once at most,
and every name: a call takes over the value of the innermost frame that hands the name down, and
none if no frame does; the names are different and in order of first occurrence from the outermost
frame on. The same holds of what a resource takes over, for the frames of `with_options` blocks
alone, so a `scope` between them changes nothing. What a call sees, of either kind, is the same with
its own options by name as one more frame inside of all others. -/
theorem Scopes.innermost_default_wins {scopes : Scopes} (distinct : scopes.Distinct) :
    Assoc.InnermostWins (scopes.map Frame.defaults) scopes.defaults ∧
      Assoc.InnermostWins (scopes.optionFrames.map Frame.defaults) scopes.resourceDefaults ∧
      (∀ inner module controller outer, scopes = inner ++ .scoped module controller :: outer →
        scopes.resourceDefaults = resourceDefaults (inner ++ outer)) ∧
      ∀ call own, Call.keywordOptions call = .ok own →
        (∃ options, call.optionsOver scopes.defaults = .ok options ∧
          Assoc.InnermostWins (own :: scopes.map Frame.defaults) options) ∧
        ∃ options, call.optionsOver scopes.resourceDefaults = .ok options ∧
          Assoc.InnermostWins (own :: scopes.optionFrames.map Frame.defaults) options := by
  have every := defaults_innermostWins distinct
  have resources : Assoc.InnermostWins (scopes.optionFrames.map Frame.defaults)
      scopes.resourceDefaults := by
    rw [resourceDefaults_eq]
    exact defaults_innermostWins fun frame listed => distinct frame (List.mem_filter.mp listed).1
  refine ⟨every, resources, ?_, fun call own read => ?_⟩
  · rintro inner module controller outer rfl
    rw [resourceDefaults_eq, resourceDefaults_eq, optionFrames, optionFrames, List.filter_append,
      List.filter_append]
    rfl
  · have single := Call.keywordOptions_nodup read
    have seen (defaults : Assoc String Value) :
        call.optionsOver defaults = .ok (defaults.merge own) := by
      rw [Call.optionsOver, read]
      rfl
    exact ⟨⟨_, seen _, every.merge single⟩, _, seen _, resources.merge single⟩

/-- A controller that two `with_options` blocks and a `scope` between them hand down, and an action
that the call writes itself. -/
theorem Scopes.innermost_default_wins_mixed :
    let inner : Scopes := [.withOptions [("only", .symbol "show"), ("controller", .text "inner")]]
    let outer : Scopes := [.namespaced "admin",
      .withOptions [("controller", .text "outer"), ("action", .text "new")]]
    let scopes : Scopes := inner ++ .scoped (some "api") (.symbol "users") :: outer
    let call : Call :=
      ⟨"get", 7, none, some [], some [(.symbol "action", .symbol "edit"), (.text "x", .text "y")],
        none⟩
    scopes.Distinct ∧ call.keywordOptions = .ok [("action", .symbol "edit")] ∧
      scopes.defaults.get? "controller" = some (.text "inner") ∧
      scopes.defaults.get? "path" = none ∧
      scopes.defaults.keys = ["controller", "action", "only"] ∧
      scopes.resourceDefaults = resourceDefaults (inner ++ outer) ∧
      ∃ options, call.optionsOver scopes.defaults = .ok options ∧
        options.get? "action" = some (.symbol "edit") := by
  intro inner outer scopes call
  have distinct : scopes.Distinct := by decide +kernel
  have read : call.keywordOptions = .ok [("action", .symbol "edit")] := rfl
  obtain ⟨every, -, apart, seen⟩ := Scopes.innermost_default_wins distinct
  obtain ⟨options, merged, above⟩ := (seen call _ read).1
  refine ⟨distinct, read, ?_, ?_, ?_, apart inner _ _ outer rfl, options, merged, ?_⟩
  · exact every.value "controller"
  · exact every.value "path"
  · rw [every.ordered]
    decide +kernel
  · exact above.value "action"

end RouteTable
