/-
**Files do not see each other.**

One recognizer reads file after file into one registry. What it finds in a file is what a new
recognizer finds there, whatever was read before, and what it finds in the statements of a file one
by one.

* `process_routes`: the routes of a file are what its statements contribute on their own;
* `process_registry`, `process_routesEmitted`, `process_filesPrepared`: what a file adds to the
  state;
* `processAll_eq_fresh`: a sequence of files.
-/

import RouteTable.Proofs.Walk.Adds

namespace RouteTable

/-- The surroundings of the statements of a file: nothing is open. -/
def Surroundings.outermost : Surroundings := ⟨[], [], none⟩

/-- A routing file that is read: its name, if it has one, and its statements. -/
structure RoutingFile where
  name : Option String
  statements : List Value

namespace Recognizer

/-- The routes that statements declare when they are a whole file. -/
def routesOf (file : RoutingFile) : List Route :=
  (Contribution.ofStatements .outermost file.statements).routesIn file.name

section OneFile

variable (name : Option String) (statements : List Value) (state : Recognizer)

/-- A file adds its routes to the registry. -/
theorem walk_startFile_registry :
    (walk statements (state.startFile name)).registry.toList =
      state.registry.toList ++ routesOf ⟨name, statements⟩ :=
  (walk_adds statements (state.startFile name)).registry

/-- **What is found in a file depends on its statements alone.** -/
theorem process_routes : (process name statements state).1 = routesOf ⟨name, statements⟩ := by
  show (walk statements (state.startFile name)).registry.toList.drop state.registry.size = _
  rw [walk_startFile_registry, ← Array.length_toList, List.drop_left]

theorem process_registry : (process name statements state).2.registry.toList =
    state.registry.toList ++ routesOf ⟨name, statements⟩ :=
  walk_startFile_registry name statements state

theorem process_routesEmitted : (process name statements state).2.routesEmitted =
    state.routesEmitted + (routesOf ⟨name, statements⟩).length := by
  rw [routesOf, Contribution.routesIn, List.length_map]
  exact (walk_adds statements (state.startFile name)).routesEmitted

theorem process_filesPrepared :
    (process name statements state).2.filesPrepared = state.filesPrepared + 1 :=
  congrArg (· + 1) (walk_adds statements (state.startFile name)).filesPrepared

end OneFile

/-- The statements of a file are read as if each were a file of its own. -/
theorem routesOf_flatMap (name : Option String) (statements : List Value) :
    routesOf ⟨name, statements⟩ =
      statements.flatMap fun statement => routesOf ⟨name, [statement]⟩ := by
  induction statements with
  | nil => rfl
  | cons statement rest ih =>
    rw [List.flatMap_cons, ← ih, routesOf, routesOf, routesOf, Contribution.ofStatements_cons,
      Contribution.routesIn_append]

/-- Reads files in order and gives the routes of each. -/
def processAll : List RoutingFile → Recognizer → List (List Route) × Recognizer
  | [], state => ([], state)
  | file :: rest, state =>
    let (found, after) := process file.name file.statements state
    let (others, last) := processAll rest after
    (found :: others, last)

theorem processAll_routes (files : List RoutingFile) (state : Recognizer) :
    (processAll files state).1 = files.map routesOf := by
  induction files generalizing state with
  | nil => rfl
  | cons file rest ih =>
    show (process file.name file.statements state).1 :: (processAll rest _).1 = _
    rw [process_routes, ih, List.map_cons]

/-- What a sequence of files adds to the state. -/
theorem processAll_state (files : List RoutingFile) (state : Recognizer) :
    let found := (files.map routesOf).flatten
    let after := (processAll files state).2
    after.registry.toList = state.registry.toList ++ found ∧
      after.routesEmitted = state.routesEmitted + found.length ∧
      after.filesPrepared = state.filesPrepared + files.length := by
  induction files generalizing state with
  | nil => exact ⟨(List.append_nil _).symm, rfl, rfl⟩
  | cons file rest ih =>
    obtain ⟨registry, emitted, prepared⟩ := ih (process file.name file.statements state).2
    refine ⟨registry.trans ?_, emitted.trans ?_, prepared.trans ?_⟩
    · rw [process_registry, List.map_cons, List.flatten_cons, List.append_assoc]
    · rw [process_routesEmitted, List.map_cons, List.flatten_cons, List.length_append,
        Nat.add_assoc]
    · rw [process_filesPrepared, List.length_cons, Nat.add_assoc, Nat.add_comm 1]

/-- **Reading files has no memory.** Whatever the recognizer and its registry went through before,
and whatever is missing in the files: the routes found in each file of a sequence are those that a
new recognizer finds in that file, and those that new recognizers find in its statements one by one;
the registry is the old one followed by these routes in order; and the counts grow by the routes and
the files. -/
theorem processAll_eq_fresh (files : List RoutingFile) (state : Recognizer) :
    let found := (processAll files state).1
    let after := (processAll files state).2
    (found = files.map fun file => (process file.name file.statements {}).1) ∧
      (found = files.map fun file => file.statements.flatMap fun statement =>
        (process file.name [statement] {}).1) ∧
      after.registry.toList = state.registry.toList ++ found.flatten ∧
      after.routesEmitted = state.routesEmitted + found.flatten.length ∧
      after.filesPrepared = state.filesPrepared + files.length := by
  have whole : routesOf = fun file => (process file.name file.statements {}).1 :=
    funext fun file => (process_routes file.name file.statements {}).symm
  have single : routesOf = fun file => file.statements.flatMap fun statement =>
      (process file.name [statement] {}).1 := by
    funext file
    simp only [process_routes]
    exact routesOf_flatMap file.name file.statements
  dsimp only
  rw [processAll_routes]
  exact ⟨by rw [whole], by rw [single], processAll_state files state⟩

end Recognizer

end RouteTable
