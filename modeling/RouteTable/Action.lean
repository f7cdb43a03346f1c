/-
**The actions of a resource.**

A resource declaration stands for an ordered list of actions: the standard ones of its kind,
filtered by the options `:only` and `:except`, then the member and the collection actions.

* `standardActions_sublist`: the standard actions keep the order of their kind.
-/

namespace RouteTable

/-- `resources` has an index of many things, `resource` is a single thing. -/
inductive ResourceKind
  | plural
  | singular
deriving DecidableEq, Repr

namespace ResourceKind

/-- The word that declares the kind. -/
def word : ResourceKind → String
  | .plural => "resources"
  | .singular => "resource"

/-- The kind that a word declares. -/
def ofWord? (word : String) : Option ResourceKind :=
  if word = "resources" then some .plural
  else if word = "resource" then some .singular
  else none

/-- The standard actions in their fixed order. -/
def actions : ResourceKind → List String
  | .plural => ["index", "show", "new", "create", "edit", "update", "destroy"]
  | .singular => ["show", "new", "create", "edit", "update", "destroy"]

/-- The actions that an `:only` option leaves; the single words `none` and `all` mean no action
and every action. -/
def keepOnly (actions : List String) : Option (List String) → List String
  | none => actions
  | some ["none"] => []
  | some ["all"] => actions
  | some names => actions.filter (· ∈ names)

/-- The actions that an `:except` option leaves; the single words `all` and `none` mean every
action and no action. -/
def dropExcept (actions : List String) : Option (List String) → List String
  | none => actions
  | some ["all"] => []
  | some ["none"] => actions
  | some names => actions.filter (· ∉ names)

/-- The standard actions that `:only` and `:except` leave. -/
def standardActions (kind : ResourceKind) (only except : Option (List String)) : List String :=
  dropExcept (keepOnly kind.actions only) except

/-- The actions added to a resource, members before collections. -/
def extensionActions (member collection : List String) : List String := member ++ collection

/-- All the actions of a resource. -/
def allActions (kind : ResourceKind) (only except : Option (List String))
    (member collection : List String) : List String :=
  standardActions kind only except ++ extensionActions member collection

theorem keepOnly_sublist (actions : List String) (only : Option (List String)) :
    (keepOnly actions only).Sublist actions := by
  unfold keepOnly
  split
  · exact List.Sublist.refl _
  · exact List.nil_sublist _
  · exact List.Sublist.refl _
  · exact List.filter_sublist

theorem dropExcept_sublist (actions : List String) (except : Option (List String)) :
    (dropExcept actions except).Sublist actions := by
  unfold dropExcept
  split
  · exact List.Sublist.refl _
  · exact List.nil_sublist _
  · exact List.Sublist.refl _
  · exact List.filter_sublist

theorem standardActions_sublist (kind : ResourceKind) (only except : Option (List String)) :
    (standardActions kind only except).Sublist kind.actions :=
  (dropExcept_sublist _ except).trans (keepOnly_sublist _ only)

end ResourceKind

end RouteTable
