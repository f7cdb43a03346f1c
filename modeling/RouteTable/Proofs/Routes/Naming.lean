/-
**The full name of a controller and the text of a route.**

The full name joins the namespaces and the class name with `::`. It tells the controller where no
segment of it has a colon. The text of a route has a `#` between the full name and the action, so it
tells the controller and the action where no segment has a `#` either. What the action is like does
not matter.

* `ControllerId.qualifiedName_inj`: controllers without colons are told apart by their full names;
* `ControllerId.IsUnmarked.not_mem_qualifiedName`: the first `#` of a text is before the action;
* `Route.text_identifies`: routes with the same text lead to the same endpoint.
-/

import RouteTable.Route
import RouteTable.Proofs.Text.Cuts

namespace RouteTable

namespace ControllerId

/-- No segment of the controller has a colon. -/
def IsPlain (controller : ControllerId) : Prop :=
  ∀ segment ∈ controller.namespaces ++ [controller.name], ':' ∉ segment.toList

/-- The parts of the full name, the class name last. -/
def nameParts (controller : ControllerId) : List (List Char) :=
  controller.namespaces.map String.toList ++ [controller.name.toList ++ "Controller".toList]

theorem qualifiedName_toList (controller : ControllerId) :
    controller.qualifiedName.toList = [':', ':'].intercalate controller.nameParts := by
  rw [qualifiedName, String.toList_intercalate, List.map_append, List.map_singleton,
    String.toList_append]
  rfl

theorem nameParts_injective : Function.Injective nameParts := by
  rintro ⟨namespaces, name⟩ ⟨others, other⟩ same
  obtain ⟨outer, last⟩ := List.append_inj' same rfl
  have outside : namespaces = others :=
    (List.map_inj_right fun _ _ => String.toList_injective).mp outer
  have base : name = other :=
    String.toList_injective (List.append_cancel_right (List.singleton_inj.mp last))
  rw [outside, base]

theorem IsPlain.nameParts {controller : ControllerId} (plain : controller.IsPlain) :
    ∀ part ∈ controller.nameParts, ':' ∉ part := by
  intro part listed
  rcases List.mem_append.mp listed with outer | last
  · obtain ⟨name, inside, rfl⟩ := List.mem_map.mp outer
    exact plain name (List.mem_append_left _ inside)
  · have base : ':' ∉ controller.name.toList :=
      plain controller.name (List.mem_append_right _ (List.mem_singleton.mpr rfl))
    rw [List.mem_singleton.mp last, List.mem_append, not_or]
    exact ⟨base, by decide⟩

/-- Controllers without colons are told apart by their full names. -/
theorem qualifiedName_inj {first second : ControllerId} (plain : first.IsPlain)
    (other : second.IsPlain) : first.qualifiedName = second.qualifiedName ↔ first = second := by
  refine ⟨fun same => nameParts_injective ?_, congrArg qualifiedName⟩
  have texts := congrArg String.toList same
  rw [qualifiedName_toList, qualifiedName_toList] at texts
  exact Text.intercalate_inj plain.nameParts other.nameParts (by simp [nameParts])
    (by simp [nameParts]) texts

/-- No segment of the controller has a colon or a `#`. -/
def IsUnmarked (controller : ControllerId) : Prop :=
  ∀ segment ∈ controller.namespaces ++ [controller.name],
    ':' ∉ segment.toList ∧ '#' ∉ segment.toList

instance (controller : ControllerId) : Decidable controller.IsUnmarked :=
  inferInstanceAs (Decidable (∀ segment ∈ controller.namespaces ++ [controller.name],
    ':' ∉ segment.toList ∧ '#' ∉ segment.toList))

namespace IsUnmarked

variable {controller : ControllerId} (unmarked : controller.IsUnmarked)
include unmarked

theorem isPlain : controller.IsPlain := fun segment inside => (unmarked segment inside).1

/-- There is no `#` in the full name: none in its parts, and none between them. -/
theorem not_mem_qualifiedName : '#' ∉ controller.qualifiedName.toList := by
  intro inside
  have cuts : Text.Cuts (· = ':') ([':', ':'].intercalate controller.nameParts)
      controller.nameParts :=
    Text.cuts_intercalate (List.cons_ne_nil _ _) (by simp) (by simp [ControllerId.nameParts])
  rw [qualifiedName_toList] at inside
  rcases cuts.mem_part inside with between | ⟨part, listed, within⟩
  · exact absurd between (by decide)
  · rcases List.mem_append.mp listed with outer | last
    · obtain ⟨name, among, rfl⟩ := List.mem_map.mp outer
      exact (unmarked name (List.mem_append_left _ among)).2 within
    · rw [List.mem_singleton.mp last, List.mem_append] at within
      rcases within with base | suffix
      · exact (unmarked controller.name (List.mem_append_right _ List.mem_cons_self)).2 base
      · exact absurd suffix (by decide)

end IsUnmarked

end ControllerId

theorem Endpoint.text_toList (endpoint : Endpoint) :
    endpoint.text.toList =
      endpoint.controller.qualifiedName.toList ++ '#' :: endpoint.action.toList := by
  rw [text, String.toList_append, String.toList_append, List.append_assoc]
  rfl

/-- **The text of a route tells where it leads.** For all routes without a colon or a `#` in their
controllers, in any number of namespaces and with any action: the texts are the same exactly where
the routes lead to the same endpoint, wherever they are declared, and the full names are the same
exactly where the controllers are. -/
theorem Route.text_identifies {first second : Route} (unmarked : first.controller.IsUnmarked)
    (other : second.controller.IsUnmarked) :
    (first.text = second.text ↔ first.toEndpoint = second.toEndpoint) ∧
      (first.controller.qualifiedName = second.controller.qualifiedName ↔
        first.controller = second.controller) := by
  have named := ControllerId.qualifiedName_inj unmarked.isPlain other.isPlain
  refine ⟨⟨fun same => ?_, congrArg Endpoint.text⟩, named⟩
  have texts := congrArg String.toList same
  rw [Endpoint.text_toList, Endpoint.text_toList] at texts
  obtain ⟨names, actions⟩ :=
    Text.append_mark_inj unmarked.not_mem_qualifiedName other.not_mem_qualifiedName texts
  have controllers := named.mp (String.toList_injective names)
  exact congrArg₂ Endpoint.mk controllers (String.toList_injective actions)

/-- The class name may end as its suffix does, and the action may look like another route. -/
theorem Route.text_identifies_suffix :
    let first : Route := ⟨⟨⟨["Admin"], "PostsController"⟩, "a#B::CController#d"⟩, none, 0⟩
    let second : Route := ⟨⟨⟨["Admin"], "PostsController"⟩, "a#B::CController#d"⟩, some "r.rb", 7⟩
    let third : Route := ⟨⟨⟨["Admin", ""], "Posts"⟩, "a#B::CController#d"⟩, none, 0⟩
    first.controller.IsUnmarked ∧ second.controller.IsUnmarked ∧ third.controller.IsUnmarked ∧
      first.text = second.text ∧ first.text ≠ third.text := by
  intro first second third
  have unmarked : first.controller.IsUnmarked := by decide
  have other : second.controller.IsUnmarked := by decide
  have apart : third.controller.IsUnmarked := by decide
  refine ⟨unmarked, other, apart, (Route.text_identifies unmarked other).1.mpr rfl, fun same => ?_⟩
  exact absurd ((Route.text_identifies unmarked apart).1.mp same) (by decide)

end RouteTable
