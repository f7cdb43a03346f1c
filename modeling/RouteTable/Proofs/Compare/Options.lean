/-
**Options that are alike name by name.**

Two maps are alike if they have the same keys in the same order and if their values are related key
by key. Writing, merging and looking up keep this, so what is known of the options of two calls and
of the frames around them is known of the options that the calls take over.

* `Assoc.Alike.merge`, `Assoc.Alike.optionValue`: merged options, and a value read from options;
* `Call.keywordOptions_alike`: the options by symbol of two calls with related entries;
* `Scopes.Alike`: frames that put the same namespaces around a controller and hand down options
  that are alike;
* `Plan.Corresponds.of_readings`: calls of which the same is read ask for the same.
-/

import RouteTable.Proofs.Compare.Trees
import RouteTable.Proofs.Options
import Mathlib.Data.List.Forall2

namespace RouteTable

/-- What is read alike of related values is read alike of values that may be missing. -/
theorem read_of_rel {α β : Type} {R : α → α → Prop} (read : Option α → β)
    (alike : ∀ value twin, R value twin → read (some twin) = read (some value))
    {value twin : Option α} (related : Option.Rel R value twin) : read twin = read value := by
  cases related with
  | none => rfl
  | some related => exact alike _ _ related

/-! ## Maps -/

namespace Assoc

variable {κ ν : Type} {R S : κ → ν → ν → Prop}

/-- Maps with the same keys in the same order, of which the values are related key by key. -/
def Alike (R : κ → ν → ν → Prop) (map other : Assoc κ ν) : Prop :=
  List.Forall₂ (fun entry twin => twin.1 = entry.1 ∧ R entry.1 entry.2 twin.2) map other

namespace Alike

theorem refl (reflexive : ∀ key value, R key value value) (map : Assoc κ ν) : Alike R map map :=
  List.forall₂_same.mpr fun entry _ => ⟨rfl, reflexive entry.1 entry.2⟩

theorem mono (weaker : ∀ key value other, R key value other → S key value other)
    {map other : Assoc κ ν} (alike : Alike R map other) : Alike S map other :=
  List.Forall₂.imp (fun _ _ related => ⟨related.1, weaker _ _ _ related.2⟩) alike

variable [DecidableEq κ]

theorem get? {map other : Assoc κ ν} (alike : Alike R map other) (key : κ) :
    Option.Rel (R key) (map.get? key) (other.get? key) := by
  induction alike with
  | nil => exact .none
  | @cons entry twin rest others related alike ih =>
    obtain ⟨present, value⟩ := entry
    obtain ⟨_, other⟩ := twin
    obtain ⟨rfl, related⟩ := related
    rw [Assoc.get?, Assoc.get?]
    split
    · next found =>
      subst found
      exact .some related
    · exact ih

theorem contains {map other : Assoc κ ν} (alike : Alike R map other) (key : κ) :
    other.contains key = map.contains key :=
  read_of_rel Option.isSome (fun _ _ _ => rfl) (alike.get? key)

theorem put {map other : Assoc κ ν} (alike : Alike R map other) {key : κ} {value twin : ν}
    (related : R key value twin) : Alike R (map.put key value) (other.put key twin) := by
  induction alike with
  | nil => exact .cons ⟨rfl, related⟩ .nil
  | @cons entry _ rest others first alike ih =>
    obtain ⟨present, old⟩ := entry
    obtain ⟨same, first⟩ := first
    dsimp only at same first
    rw [Assoc.put, Assoc.put, same]
    split
    · next found =>
      subst found
      exact .cons ⟨rfl, related⟩ alike
    · exact .cons ⟨rfl, first⟩ ih

theorem merge {map other added twin : Assoc κ ν} (alike : Alike R map other)
    (further : Alike R added twin) : Alike R (map.merge added) (other.merge twin) := by
  induction further generalizing map other with
  | nil => exact alike
  | @cons entry _ rest others first _ ih =>
    obtain ⟨same, first⟩ := first
    rw [Assoc.merge, Assoc.merge, List.foldl_cons, List.foldl_cons, same]
    exact ih (alike.put first)

theorem ofEntries {entries others : List (κ × ν)} (alike : Alike R entries others) :
    Alike R (Assoc.ofEntries entries) (Assoc.ofEntries others) :=
  merge .nil alike

/-- A value that is read from options; an option that is not written reads as nothing. -/
theorem optionValue {R : String → Value → Value → Prop} {options others : Assoc String Value}
    (alike : Alike R options others) {name : String} (absent : R name .nothing .nothing) :
    R name (RouteTable.optionValue options name) (RouteTable.optionValue others name) := by
  have found := alike.get? name
  rw [RouteTable.optionValue, RouteTable.optionValue]
  generalize options.get? name = value at *
  generalize others.get? name = twin at *
  cases found with
  | none => exact absent
  | some related => exact related

end Alike

end Assoc

/-! ## Calls -/

/-- What is read of two calls: the same fault, or values that are related. -/
inductive ReadAlike {α : Type} (R : α → α → Prop) : Except ShapeFault α → Except ShapeFault α → Prop
  | fault {fault} : ReadAlike R (.error fault) (.error fault)
  | read {value other} : R value other → ReadAlike R (.ok value) (.ok other)

theorem ReadAlike.bind {α β : Type} {R : α → α → Prop} {S : β → β → Prop}
    {first second : Except ShapeFault α} (alike : ReadAlike R first second)
    {next other : α → Except ShapeFault β}
    (same : ∀ value twin, R value twin → ReadAlike S (next value) (other twin)) :
    ReadAlike S (first >>= next) (second >>= other) := by
  cases alike with
  | fault => exact .fault
  | read related => exact same _ _ related

/-- What goes on alike from related values goes on alike from what is read. -/
theorem ReadAlike.bind_eq {α β : Type} {R : α → α → Prop} {first second : Except ShapeFault α}
    (alike : ReadAlike R first second) {next other : α → Except ShapeFault β}
    (same : ∀ value twin, R value twin → other twin = next value) :
    second >>= other = first >>= next := by
  cases alike with
  | fault => rfl
  | read related => exact same _ _ related

/-- Entries that may stand for each other give options that are alike: the same symbols with values
that are related. -/
theorem Call.keywordOptions_alike {R : String → Value → Value → Prop}
    {E : Atom × Value → Atom × Value → Prop}
    (named : ∀ entry twin, E entry twin → twin.1.symbolName? = entry.1.symbolName?)
    (related : ∀ entry twin, E entry twin → ∀ name ∈ entry.1.symbolName?, R name entry.2 twin.2)
    {call twin : Call} (options : Option.Rel (List.Forall₂ E) call.options twin.options) :
    ReadAlike (Assoc.Alike R) call.keywordOptions twin.keywordOptions := by
  rw [keywordOptions_eq, keywordOptions_eq]
  generalize call.options = written at *
  generalize twin.options = other at *
  cases options with
  | none => exact .fault
  | some entries =>
    refine .read (Assoc.Alike.ofEntries (List.rel_filterMap ?_ entries))
    intro entry twin same
    dsimp only
    rw [named entry twin same]
    cases word : entry.1.symbolName? with
    | none => exact .none
    | some name => exact .some ⟨rfl, related entry twin same name word⟩

/-! ## Frames -/

/-- Frames that add the same segment and hand down options that are alike. -/
structure Frame.Alike (R : String → Value → Value → Prop) (frame twin : Frame) : Prop where
  segment : twin.segment? = frame.segment?
  defaults : Assoc.Alike R frame.defaults twin.defaults
  resourceDefaults : Assoc.Alike R frame.resourceDefaults twin.resourceDefaults

/-- Scopes that put the same namespaces around a controller and hand down options that are alike. -/
structure Scopes.Alike (R : String → Value → Value → Prop) (scopes others : Scopes) : Prop where
  namespaces : others.controllerNamespaces = scopes.controllerNamespaces
  defaults : Assoc.Alike R scopes.defaults others.defaults
  resourceDefaults : Assoc.Alike R scopes.resourceDefaults others.resourceDefaults

section

variable {R : String → Value → Value → Prop}

theorem Frame.Alike.refl (reflexive : ∀ name value, R name value value) (frame : Frame) :
    Frame.Alike R frame frame :=
  ⟨rfl, .refl reflexive _, .refl reflexive _⟩

namespace Scopes.Alike

theorem refl (reflexive : ∀ name value, R name value value) (scopes : Scopes) :
    Scopes.Alike R scopes scopes :=
  ⟨rfl, .refl reflexive _, .refl reflexive _⟩

/-- Frames that are alike may be put around scopes that are alike. -/
theorem cons {scopes others : Scopes} (outer : Scopes.Alike R scopes others) {frame twin : Frame}
    (alike : Frame.Alike R frame twin) : Scopes.Alike R (frame :: scopes) (twin :: others) where
  namespaces := by
    rw [controllerNamespaces_cons, controllerNamespaces_cons, outer.namespaces, alike.segment]
  defaults := outer.defaults.merge alike.defaults
  resourceDefaults := outer.resourceDefaults.merge alike.resourceDefaults

/-- The controllers that a resource declaration names. -/
theorem controllersOf {scopes others : Scopes} (alike : Scopes.Alike R scopes others)
    {options twins : Assoc String Value} (names : List String)
    (controller : (optionValue twins "controller").literal? =
      (optionValue options "controller").literal?)
    (module : (optionValue twins "module").literal? = (optionValue options "module").literal?) :
    others.controllersOf names twins = scopes.controllersOf names options := by
  unfold Scopes.controllersOf Scopes.controllerOf?
  rw [alike.namespaces, controller, module]

end Scopes.Alike

end

/-! ## Plans -/

/-- **What is read of two calls where they stand**: frames that correspond, if they open any, and
the same of everything else. -/
structure Call.SameReadings (frames : Frame → Frame → Prop) (around other : Surroundings)
    (call twin : Call) : Prop where
  name : twin.name = call.name
  frame : ReadAlike (Option.Rel frames) call.frame? twin.frame?
  added : twin.addedName? other = call.addedName? around
  direct : ∀ legacy,
    directRoute other.scopes legacy twin = directRoute around.scopes legacy call
  root : call.name = "root" → rootRoute other.scopes twin = rootRoute around.scopes call
  declaration : ResourceDeclaration.ofCall other.scopes twin =
    ResourceDeclaration.ofCall around.scopes call

/-- Calls of which the same is read ask for the same in one form, and for frames that correspond. -/
theorem Plan.Corresponds.of_readings {frames : Frame → Frame → Prop}
    (reflexive : ∀ frame, frames frame frame) {around other : Surroundings} {call twin : Call}
    (same : Call.SameReadings frames around other call twin) {form : Form}
    (root : form = .root → call.name = "root") :
    Corresponds frames id (ofForm around call form) (ofForm other twin form) := by
  cases form with
  | frame =>
    have opened := same.frame
    rw [ofForm, ofForm]
    generalize call.frame? = frame at *
    generalize twin.frame? = entered at *
    cases opened with
    | fault => exact .fault
    | read opened =>
      cases opened with
      | none => exact .descend
      | some opened => exact .frame opened
  | verb =>
    refine .of_eq reflexive ?_
    rw [ofForm, ofForm, ofVerb_eq, ofVerb_eq, same.added, same.name, same.direct]
  | root => exact .of_eq reflexive (by rw [ofForm, ofForm, same.root (root rfl)])
  | named => exact .of_eq reflexive (by rw [ofForm, ofForm, same.direct])
  | resource kind => exact .of_eq reflexive (by rw [ofForm, ofForm, same.declaration])
  | grouping | template | unknown => exact .of_eq reflexive rfl

end RouteTable
