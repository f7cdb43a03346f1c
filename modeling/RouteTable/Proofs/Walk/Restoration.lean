/-
**What a walk leaves as it was.**

Blocks put frames, parameters and open resources into the state and take them out again. A call
inside may lack a part that is asked for, at any depth and after some of its work is done; it is
given up, and what is open after it is what was open before.

* `Restores`: what is open is as before, and nothing that was listed is taken back;
* `dispatch_direct_fault`: a direct route that is given up has changed nothing;
* `walk_restores`: every walk restores, also through calls that are given up.
-/

import RouteTable.Proofs.Walk.Adds

namespace RouteTable

/-- Whether a call of the form leads to one endpoint at most. -/
def Form.isDirect : Form → Bool
  | .verb | .root | .named => true
  | _ => false

/-- A direct route is settled at once: it leads somewhere or adds a name; no block is entered. -/
theorem Plan.ofForm_direct {around : Surroundings} {call : Call} {form : Form} {plan : Plan}
    (direct : form.isDirect) (read : ofForm around call form = .ok plan) :
    (∃ outcome, plan = .outcome outcome) ∨
      ∃ grouping action, plan = .extension grouping action := by
  have mapped {found : Except ShapeFault Outcome} (settled : found.map .outcome = .ok plan) :
      ∃ outcome, plan = .outcome outcome := by
    cases found with
    | error fault => cases settled
    | ok outcome => exact ⟨outcome, (Except.ok.inj settled).symm⟩
  cases form with
  | verb =>
    rw [ofForm, ofVerb_eq] at read
    cases name : call.addedName? around with
    | some added =>
      rw [name] at read
      exact .inr ⟨added.1, added.2, (Except.ok.inj read).symm⟩
    | none =>
      rw [name] at read
      exact .inl (mapped read)
  | root => exact .inl (mapped read)
  | named => exact .inl (mapped read)
  | resource _ | frame | grouping _ | template | unknown => cases direct

namespace Recognizer

/-- **What is open is as before, and nothing that was listed is taken back.** Only the innermost
open resource may have more names than before. -/
structure Restores (before after : Recognizer) : Prop where
  scopes : after.scopes = before.scopes
  parameters : after.parameters = before.parameters
  depth : after.resources.length = before.resources.length
  outer : after.resources.tail = before.resources.tail
  innermost : ∀ resource ∈ before.resources.head?, ∃ later ∈ after.resources.head?,
    later.controllers = resource.controllers ∧ later.grouping = resource.grouping ∧
      resource.member <+: later.member ∧ resource.collection <+: later.collection
  registry : before.registry.toList <+: after.registry.toList

/-- An addition restores. -/
theorem Adds.restores {added : Contribution} {before after : Recognizer}
    (one : Adds added before after) : Restores before after where
  scopes := one.scopes
  parameters := one.parameters
  depth := by rw [one.resources, Contribution.extendInnermost, List.length_modifyHead]
  outer := by rw [one.resources, Contribution.extendInnermost, List.tail_modifyHead]
  innermost := by
    intro resource innermost
    refine ⟨added.extend resource, ?_, rfl, rfl, List.prefix_append _ _, List.prefix_append _ _⟩
    rw [one.resources, Contribution.extendInnermost, List.head?_modifyHead,
      Option.mem_def.mp innermost]
    rfl
  registry := one.registry ▸ List.prefix_append _ _

/-- A direct route that is given up has changed nothing: its parts are asked for before anything is
listed. -/
theorem dispatch_direct_fault {call : Call} {state : Recognizer} {fault : ShapeFault}
    (direct : (call.form state.surroundings).isDirect)
    (failed : (dispatch call state).2 = some fault) : (dispatch call state).1 = state := by
  obtain ⟨name, line, receiver, arguments, options, block⟩ := call
  rw [dispatch.eq_def] at failed ⊢
  dsimp only at failed ⊢
  rw [Plan.ofCall_form] at failed ⊢
  generalize form : Call.form _ _ = read at *
  cases plan : Plan.ofForm state.surroundings _ read with
  | error reason => rfl
  | ok plan =>
    obtain ⟨outcome, rfl⟩ | ⟨grouping, action, rfl⟩ := Plan.ofForm_direct direct plan
    · rw [plan] at failed
      cases failed
    · rw [plan] at failed
      cases failed

/-- **What is open around statements is the same before and after them, also when calls are given
up.** From every state, whatever parts are missing in the statements at any depth: a walk restores
what was open and takes nothing back; a block of these statements ends without a fault of its own,
since each fault ends at the call it strikes; and a direct route that is struck has listed no route
and added no name. -/
theorem walk_restores (statements : List Value) (state : Recognizer) :
    Restores state (walk statements state) ∧
      (∀ parameters, (walkBlock ⟨some parameters, some statements⟩ state).2 = none) ∧
      ∀ call fault, (call.form state.surroundings).isDirect →
        (dispatch call state).2 = some fault → (dispatch call state).1 = state :=
  ⟨(walk_adds statements state).restores, fun _ => rfl,
    fun _ _ direct failed => dispatch_direct_fault direct failed⟩

/-- A verb without readable options in a member block of an open resource. -/
theorem walk_restores_lost_verb :
    let lost : Call := ⟨"get", 3, none, some [.atom (.symbol "preview")], none, none⟩
    let around : Call := ⟨"member", 2, none, some [], some [], some ⟨some [], some [.call lost]⟩⟩
    let state : Recognizer := { resources := [⟨[], ["show"], [], .member⟩] }
    (lost.form state.surroundings).isDirect ∧ (dispatch lost state).2 = some .options ∧
      Restores state (walk [.call around] state) ∧ (dispatch lost state).1 = state := by
  intro lost around state
  have direct : (lost.form state.surroundings).isDirect := by decide +kernel
  have failed : (dispatch lost state).2 = some .options := by decide +kernel
  obtain ⟨restored, -, given⟩ := walk_restores [.call around] state
  exact ⟨direct, failed, restored, given lost .options direct failed⟩

end Recognizer

end RouteTable
