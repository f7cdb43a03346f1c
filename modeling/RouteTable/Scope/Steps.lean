/-
**Using a stack of frames.**

Frames are pushed and popped one by one, or a block puts its frame around its own steps and takes
the top frame away at its end, also when it fails. What a block fails with is passed on, unless
there is no frame to take away. Every step leaves an entry behind, a block after its own steps.

* `run_block_outer`: a block whose steps leave a frame on top ends with what lies below that frame;
* `runAll_append`: steps can be carried out in two goes.
-/

import RouteTable.Scope

namespace RouteTable.Scopes

/-- What can be done with a stack of frames. After its steps a block may fail, with a message. -/
inductive Step
  | push (frame : Frame)
  | pop
  | reset
  | block (frame : Frame) (steps : List Step) (failure : Option String)
  | resolve (names : List String) (options : Assoc String Value)
  | resolveOne (name : String) (module : Option String)

/-- What a step answers. -/
inductive Outcome
  | done
  | popped (frame : Frame)
  | controllers (found : List ControllerId)
  | controller (found : Option ControllerId)
  | nothingToPop
  | failed (message : String)

/-- A step that was carried out, with its outcome and the frames after it. -/
structure Entry where
  step : Step
  outcome : Outcome
  scopes : Scopes

/-- The end of a block: the top frame is taken away, and a failure is passed on unless there is no
frame to take. -/
def leave (failure : Option String) : Scopes → Outcome × Scopes
  | [] => (.nothingToPop, [])
  | _ :: outer => (failure.elim .done .failed, outer)

mutual

/-- Carries out a step. -/
def run (scopes : Scopes) : Step → List Entry × Scopes
  | .push frame => ([⟨.push frame, .done, frame :: scopes⟩], frame :: scopes)
  | .pop =>
    match scopes with
    | [] => ([⟨.pop, .nothingToPop, []⟩], [])
    | innermost :: outer => ([⟨.pop, .popped innermost, outer⟩], outer)
  | .reset => ([⟨.reset, .done, []⟩], [])
  | .block frame steps failure =>
    let inner := runAll (frame :: scopes) steps
    let ended := leave failure inner.2
    (inner.1 ++ [⟨.block frame steps failure, ended.1, ended.2⟩], ended.2)
  | .resolve names options =>
    let found := scopes.controllersOf names options
    ([⟨.resolve names options, .controllers found, scopes⟩], scopes)
  | .resolveOne name module =>
    let found := scopes.controllerOf? name module
    ([⟨.resolveOne name module, .controller found, scopes⟩], scopes)

/-- Carries out steps in order. -/
def runAll (scopes : Scopes) : List Step → List Entry × Scopes
  | [] => ([], scopes)
  | step :: rest =>
    let first := run scopes step
    let others := runAll first.2 rest
    (first.1 ++ others.1, others.2)

end

theorem runAll_append (scopes : Scopes) (steps others : List Step) :
    runAll scopes (steps ++ others) =
      ((runAll scopes steps).1 ++ (runAll (runAll scopes steps).2 others).1,
        (runAll (runAll scopes steps).2 others).2) := by
  induction steps generalizing scopes with
  | nil => simp [runAll]
  | cons step rest ih => simp [runAll, ih, List.append_assoc]

theorem run_block_outer {scopes outer : Scopes} {frame top : Frame} {steps : List Step}
    (failure : Option String) (left : (runAll (frame :: scopes) steps).2 = top :: outer) :
    (run scopes (.block frame steps failure)).2 = outer := by
  simp [run, left, leave]

end RouteTable.Scopes
