/-
**Standard actions are selected by `:only` and `:except`.**

The names of an option select the actions that they name; the single words `all` and `none` select
every action and no action. `:only` keeps what its names select and `:except` drops it. So the two
options with the same names share the standard actions out between them, and where both are given
an action stays if either of them alone leaves it.

* `standardActions_eq_filter`: the standard actions as one filter of the standard order;
* `selects_perm`: the order of the names does not matter;
* `standardActions_only_except`: the laws of the two options.
-/

import RouteTable.Action

namespace RouteTable.ResourceKind

/-- Whether the names of an option select an action; the single words `none` and `all` select no
action and every action. -/
def selects (names : List String) (action : String) : Bool :=
  if names = ["none"] then false else names = ["all"] || action ∈ names

/-- Whether an option leaves an action, as those that its names select (`:only`) or as those that
they do not select (`:except`); an absent option leaves every action. -/
def leaves (selected : Bool) (option : Option (List String)) (action : String) : Bool :=
  option.all fun names => selects names action == selected

theorem keepOnly_eq_filter (actions : List String) (only : Option (List String)) :
    keepOnly actions only = actions.filter (leaves true only) := by
  unfold keepOnly
  split
  · exact (List.filter_eq_self.mpr fun _ _ => rfl).symm
  · exact (List.filter_eq_nil_iff.mpr fun _ _ => by simp [leaves, selects]).symm
  · exact (List.filter_eq_self.mpr fun _ _ => by simp [leaves, selects]).symm
  · next names none all =>
    have word : names ≠ ["none"] := none
    have every : names ≠ ["all"] := all
    exact List.filter_congr fun action _ => by simp [leaves, selects, word, every]

theorem dropExcept_eq_filter (actions : List String) (except : Option (List String)) :
    dropExcept actions except = actions.filter (leaves false except) := by
  unfold dropExcept
  split
  · exact (List.filter_eq_self.mpr fun _ _ => rfl).symm
  · exact (List.filter_eq_nil_iff.mpr fun _ _ => by simp [leaves, selects]).symm
  · exact (List.filter_eq_self.mpr fun _ _ => by simp [leaves, selects]).symm
  · next names all none =>
    have word : names ≠ ["none"] := none
    have every : names ≠ ["all"] := all
    exact List.filter_congr fun action _ => by simp [leaves, selects, word, every]

/-- The standard actions that stay are those that both options leave. -/
theorem standardActions_eq_filter (kind : ResourceKind) (only except : Option (List String)) :
    kind.standardActions only except =
      kind.actions.filter fun action => leaves true only action && leaves false except action := by
  rw [standardActions, keepOnly_eq_filter, dropExcept_eq_filter, List.filter_filter]
  exact List.filter_congr fun action _ => Bool.and_comm ..

section

variable {kind : ResourceKind} {names : List String} {action : String}

theorem mem_standardActions {only except : Option (List String)} :
    action ∈ kind.standardActions only except ↔
      action ∈ kind.actions ∧ leaves true only action = true ∧
        leaves false except action = true := by
  rw [standardActions_eq_filter, List.mem_filter, Bool.and_eq_true]

theorem mem_standardActions_only : action ∈ kind.standardActions (some names) none ↔
    action ∈ kind.actions ∧ selects names action = true := by
  simp [mem_standardActions, leaves]

theorem mem_standardActions_except : action ∈ kind.standardActions none (some names) ↔
    action ∈ kind.actions ∧ selects names action = false := by
  simp [mem_standardActions, leaves]

end

theorem actions_nodup (kind : ResourceKind) : kind.actions.Nodup := by
  cases kind <;> decide

theorem standardActions_nodup (kind : ResourceKind) (only except : Option (List String)) :
    (kind.standardActions only except).Nodup :=
  (kind.standardActions_sublist only except).nodup kind.actions_nodup

/-- Names select the same actions in every order: a single word has no other order. -/
theorem selects_perm {names others : List String} (perm : names.Perm others) :
    selects names = selects others := by
  have word (single : String) : names = [single] ↔ others = [single] := by
    constructor
    · rintro rfl
      exact List.perm_singleton.mp perm.symm
    · rintro rfl
      exact List.perm_singleton.mp perm
  funext action
  simp only [selects, word, perm.mem_iff]

/-- An option with its names in another order, absent if the option is absent. -/
abbrev Reordered (names others : Option (List String)) : Prop := Option.Rel List.Perm names others

theorem leaves_reordered (selected : Bool) {option other : Option (List String)}
    (same : Reordered option other) : leaves selected option = leaves selected other := by
  cases same with
  | none => rfl
  | some perm =>
    funext action
    rw [leaves, leaves, Option.all_some, Option.all_some, selects_perm perm]

/-- **The laws of `:only` and `:except`.** `:only` leaves the standard actions that its names select.
With the same names the two options leave two parts of the standard actions, each in the standard
order and without repetition, which share no action and together are all of them. With two options,
given or absent, an action stays exactly if it stays under each of them alone. The order of the
names does not matter, and the actions of a resource are its standard actions, then the member
actions and then the collection actions, as they were written. -/
theorem standardActions_only_except (kind : ResourceKind) :
    (∀ names : List String,
      let kept := kind.standardActions (some names) none
      let left := kind.standardActions none (some names)
      (∀ action, action ∈ kept ↔ action ∈ kind.actions ∧ selects names action = true) ∧
        (kept.Nodup ∧ kept.Sublist kind.actions) ∧ (left.Nodup ∧ left.Sublist kind.actions) ∧
        (∀ action ∈ kept, action ∉ left) ∧
        ∀ action ∈ kind.actions, action ∈ kept ∨ action ∈ left) ∧
      (∀ only except : Option (List String), kind.standardActions only except =
        kind.actions.filter fun action => action ∈ kind.standardActions only none ∧
          action ∈ kind.standardActions none except) ∧
      (∀ only only' except except' : Option (List String), Reordered only only' →
        Reordered except except' →
        kind.standardActions only' except' = kind.standardActions only except) ∧
      ∀ (only except : Option (List String)) (member collection : List String),
        kind.allActions only except member collection =
          kind.standardActions only except ++ member ++ collection := by
  refine ⟨fun names => ?_, fun only except => ?_, fun only only' except except' kept left => ?_,
    fun only except member collection => ?_⟩
  · refine ⟨fun action => mem_standardActions_only,
      ⟨kind.standardActions_nodup _ _, kind.standardActions_sublist _ _⟩,
      ⟨kind.standardActions_nodup _ _, kind.standardActions_sublist _ _⟩,
      fun action kept left => ?_, fun action standard => ?_⟩
    · have selected := (mem_standardActions_only.mp kept).2
      rw [(mem_standardActions_except.mp left).2] at selected
      cases selected
    · rw [mem_standardActions_only, mem_standardActions_except]
      cases selects names action
      · exact .inr ⟨standard, rfl⟩
      · exact .inl ⟨standard, rfl⟩
  · rw [standardActions_eq_filter]
    refine List.filter_congr fun action standard => ?_
    rw [Bool.eq_iff_iff]
    simp [mem_standardActions, standard, leaves]
  · rw [standardActions_eq_filter, standardActions_eq_filter, leaves_reordered true kept,
      leaves_reordered false left]
  · rw [allActions, extensionActions, List.append_assoc]

/-- The single word `none` for `:except`, and an `:only` with an unknown and a repeated name. -/
theorem standardActions_only_except_plural :
    let only := ["show", "archive", "index", "show"]
    let other := ["index", "show", "show", "archive"]
    Reordered (some only) (some other) ∧ Reordered (some ["none"]) (some ["none"]) ∧
      ResourceKind.plural.standardActions (some only) (some ["none"]) = ["index", "show"] ∧
      ResourceKind.plural.standardActions (some other) (some ["none"]) =
        ResourceKind.plural.standardActions (some only) (some ["none"]) := by
  intro only other
  have reordered : Reordered (some only) (some other) := .some (by decide)
  have single : Reordered (some ["none"]) (some ["none"]) := .some (.refl _)
  exact ⟨reordered, single, by decide,
    (standardActions_only_except .plural).2.2.1 _ _ _ _ reordered single⟩

end RouteTable.ResourceKind
