/-
**Opaque text.**

What a text with interpolation, a pattern or any other expression comes to is not known before the
program runs; its source is opaque. A redacted value has such sources blanked, at any depth. Values
with the same redaction are read alike: as literals, as names, as targets.

* `Value.Alike.literal?`, `Value.Alike.namesOf`, `Value.Alike.target`: what is read of both.
-/

import RouteTable.Proofs.Walk.Form
import RouteTable.Proofs.Walk.Reading

namespace RouteTable

/-- An atom with opaque text blanked. -/
def Atom.redacted : Atom → Atom
  | .interpolated _ => .interpolated ""
  | .pattern _ => .pattern ""
  | .expression _ => .expression ""
  | plain => plain

mutual

/-- A value with opaque text blanked at any depth. -/
def Value.redacted : Value → Value
  | .atom plain => .atom plain.redacted
  | .array items => .array (Value.redactedAll items)
  | .hash entries => .hash (Value.redactedEntries entries)
  | .call call => .call call.redacted
termination_by structural value => value

def Value.redactedAll : List Value → List Value
  | [] => []
  | value :: rest => value.redacted :: Value.redactedAll rest
termination_by structural values => values

def Value.redactedEntries : List (Atom × Value) → List (Atom × Value)
  | [] => []
  | (key, value) :: rest => (key.redacted, value.redacted) :: Value.redactedEntries rest
termination_by structural entries => entries

/-- A call with opaque text blanked in its parts and in its block. -/
def Call.redacted : Call → Call
  | ⟨name, line, receiver, arguments, options, block⟩ =>
    ⟨name, line, Call.redactedReceiver receiver, Call.redactedArguments arguments,
      Call.redactedOptions options, Call.redactedBlock block⟩
termination_by structural call => call

def Call.redactedReceiver : Option Value → Option Value
  | none => none
  | some receiver => some receiver.redacted
termination_by structural receiver => receiver

def Call.redactedArguments : Option (List Value) → Option (List Value)
  | none => none
  | some arguments => some (Value.redactedAll arguments)
termination_by structural arguments => arguments

def Call.redactedOptions : Option (List (Atom × Value)) → Option (List (Atom × Value))
  | none => none
  | some options => some (Value.redactedEntries options)
termination_by structural options => options

def Call.redactedBlock : Option Block → Option Block
  | none => none
  | some ⟨parameters, body⟩ => some ⟨parameters, Call.redactedArguments body⟩
termination_by structural block => block

end

theorem Value.redactedAll_eq (values : List Value) :
    redactedAll values = values.map redacted := by
  induction values with
  | nil => rfl
  | cons value rest ih => rw [redactedAll, ih, List.map_cons]

theorem Value.redactedEntries_eq (entries : List (Atom × Value)) :
    redactedEntries entries = entries.map fun entry => (entry.1.redacted, entry.2.redacted) := by
  induction entries with
  | nil => rfl
  | cons entry rest ih =>
    obtain ⟨key, value⟩ := entry
    rw [redactedEntries, ih, List.map_cons]

/-! ## What is read of a redacted value -/

theorem Atom.literal?_redacted (atom : Atom) : atom.redacted.literal? = atom.literal? := by
  cases atom <;> rfl

namespace Value

theorem literal?_redacted (value : Value) : value.redacted.literal? = value.literal? := by
  cases value with
  | atom plain => exact plain.literal?_redacted
  | array | hash | call => rfl

theorem isGiven_redacted (value : Value) : value.redacted.isGiven = value.isGiven := by
  cases value with
  | atom plain => cases plain <;> rfl
  | array | hash | call => rfl

theorem isPattern_redacted (value : Value) : value.redacted.isPattern = value.isPattern := by
  cases value with
  | atom plain => cases plain <;> rfl
  | array | hash | call => rfl

theorem isRedirect_redacted (value : Value) : value.redacted.isRedirect = value.isRedirect := by
  cases value with
  | atom | array | hash => rfl
  | call call =>
    obtain ⟨name, line, receiver, arguments, options, block⟩ := call
    cases receiver <;> rfl

theorem namesOf_redacted (value : Value) : value.redacted.namesOf = value.namesOf := by
  cases value with
  | atom plain => cases plain <;> rfl
  | array items =>
    show some (nonempty ((redactedAll items).filterMap literal?)) = _
    rw [redactedAll_eq, List.filterMap_map, show literal? ∘ redacted = literal? from
      funext literal?_redacted]
    rfl
  | hash entries =>
    show some (nonempty ((redactedEntries entries).filterMap _)) = _
    rw [redactedEntries_eq, List.filterMap_map]
    refine congrArg some (congrArg nonempty (congrArg (List.filterMap · entries) (funext ?_)))
    exact fun entry => entry.1.literal?_redacted
  | call call => rfl

theorem target_redacted (value : Value) : Target.ofValue value.redacted = Target.ofValue value := by
  cases value with
  | atom plain => cases plain <;> rfl
  | array | hash => rfl
  | call call =>
    show Target.skipped (if (redacted (.call call)).isRedirect then _ else _) = _
    rw [isRedirect_redacted]
    rfl

theorem isText_redacted (value : Value) : value.redacted.isText = value.isText := by
  cases value with
  | atom plain => cases plain <;> rfl
  | array | hash | call => rfl

theorem identifier?_redacted (value : Value) : value.redacted.identifier? = value.identifier? := by
  cases value with
  | atom plain => cases plain <;> rfl
  | array | hash | call => rfl

theorem symbol?_redacted (value : Value) : value.redacted.symbol? = value.symbol? := by
  cases value with
  | atom plain => cases plain <;> rfl
  | array | hash | call => rfl

/-! ## Values that are alike -/

/-- Values that differ in opaque text at most. -/
def Alike (value twin : Value) : Prop := twin.redacted = value.redacted

namespace Alike

theorem refl (value : Value) : Alike value value := rfl

variable {value twin : Value} (alike : Alike value twin)
include alike

theorem literal? : twin.literal? = value.literal? := by
  rw [← literal?_redacted, alike, literal?_redacted]

theorem isGiven : twin.isGiven = value.isGiven := by
  rw [← isGiven_redacted, alike, isGiven_redacted]

theorem isPattern : twin.isPattern = value.isPattern := by
  rw [← isPattern_redacted, alike, isPattern_redacted]

theorem isRedirect : twin.isRedirect = value.isRedirect := by
  rw [← isRedirect_redacted, alike, isRedirect_redacted]

theorem namesOf : twin.namesOf = value.namesOf := by
  rw [← namesOf_redacted, alike, namesOf_redacted]

theorem target : Target.ofValue twin = Target.ofValue value := by
  rw [← target_redacted, alike, target_redacted]

theorem isText : twin.isText = value.isText := by
  rw [← isText_redacted, alike, isText_redacted]

theorem symbol? : twin.symbol? = value.symbol? := by
  rw [← symbol?_redacted, alike, symbol?_redacted]

theorem identifier? : twin.identifier? = value.identifier? := by
  rw [← identifier?_redacted, alike, identifier?_redacted]

end Alike

end Value

end RouteTable
