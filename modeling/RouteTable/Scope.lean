/-
**Scopes.**

A block of `namespace`, `scope`, `controller` or `with_options` puts a frame around the calls
inside it. A frame adds a segment to the namespaces of controllers, or default options to calls.

* `defaults_cons`, `resourceDefaults_cons`, `controllerNamespaces_cons`: what the innermost frame
  adds.
-/

import RouteTable.Call
import RouteTable.Controller

namespace RouteTable

/-- One frame around calls. -/
inductive Frame
  | namespaced (name : String)
  | scoped (module : Option String) (controller : Value)
  | withOptions (defaults : Assoc String Value)

namespace Frame

/-- The path that the frame adds to the namespaces of controllers. -/
def segment? : Frame → Option String
  | .namespaced name => some name
  | .scoped module _ => module
  | .withOptions _ => none

/-- The options that calls inside the frame take over. -/
def defaults : Frame → Assoc String Value
  | .namespaced _ => []
  | .scoped _ controller => if controller.isGiven then [("controller", controller)] else []
  | .withOptions defaults => defaults

/-- The options that resource declarations inside the frame take over: a resource names its own
controller, so a scope gives it none. -/
def resourceDefaults : Frame → Assoc String Value
  | .withOptions defaults => defaults
  | _ => []

end Frame

/-- The frames around a call, innermost first. -/
abbrev Scopes : Type := List Frame

namespace Scopes

/-- The namespaces that the frames put around a controller, outermost first. -/
def controllerNamespaces (scopes : Scopes) : List String :=
  scopes.reverse.flatMap fun frame => camelizeSegments (frame.segment?.getD "")

/-- The options that a call takes over; an inner frame wins over an outer one. -/
def defaults (scopes : Scopes) : Assoc String Value :=
  scopes.foldr (fun frame outer => outer.merge frame.defaults) []

/-- The options that a resource declaration takes over. -/
def resourceDefaults (scopes : Scopes) : Assoc String Value :=
  scopes.foldr (fun frame outer => outer.merge frame.resourceDefaults) []

theorem defaults_cons (frame : Frame) (outer : Scopes) :
    defaults (frame :: outer) = (defaults outer).merge frame.defaults := rfl

theorem resourceDefaults_cons (frame : Frame) (outer : Scopes) :
    resourceDefaults (frame :: outer) = (resourceDefaults outer).merge frame.resourceDefaults := rfl

theorem controllerNamespaces_cons (frame : Frame) (outer : Scopes) :
    controllerNamespaces (frame :: outer) =
      controllerNamespaces outer ++ camelizeSegments (frame.segment?.getD "") := by
  simp [controllerNamespaces]

/-- The controller that a name stands for inside the frames, with one more module around it. -/
def controllerOf? (scopes : Scopes) (name : String) (module : Option String) :
    Option ControllerId :=
  ControllerId.ofName? (scopes.controllerNamespaces ++ camelizeSegments (module.getD "")) name

/-- The controllers that names stand for; a `:controller` option replaces every name, and a
`:module` option adds its segments after those of the frames. -/
def controllersOf (scopes : Scopes) (names : List String) (options : Assoc String Value) :
    List ControllerId :=
  let explicit := ((optionValue options "controller").literal?).filter (· ≠ "")
  let module := (optionValue options "module").literal?
  names.filterMap fun name => scopes.controllerOf? (explicit.getD name) module

end Scopes

end RouteTable
