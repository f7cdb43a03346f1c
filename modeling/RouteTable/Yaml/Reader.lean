/-
**Reading YAML text.**

The only document of a text is read into a datum. A key `<<` takes over the entries of other
mappings, those of the mapping itself win, and a repeated key keeps its first place and takes its
last value.

* `read_empty`: a text without a document has no value.
-/

import RouteTable.Yaml.Node

namespace RouteTable.Yaml

/-- The tag of a node. -/
def Node.tag : Node → Tag
  | .scalar tag _ | .sequence tag _ | .mapping tag _ => tag
  | .unfinished => .unknown ""

/-- The entries of a node that is merged into a mapping. -/
def mergedEntries : Node → Except Fault (List (Node × Node))
  | .mapping _ entries => .ok entries
  | .sequence _ items => do
    let parts ← items.mapM fun item => match item with
      | .mapping _ entries => .ok entries
      | _ => .error Fault.badValue
    return parts.reverse.flatten
  | _ => .error .badValue

/-- A key, read as a text if it is the sign for a default. -/
def plainKey : Node → Node
  | .scalar .defaultKey content => .scalar .text content
  | key => key

/-- Merges the entries of other mappings into a mapping. -/
def mergeEntries (entries : List (Node × Node)) : Except Fault (List (Node × Node)) := do
  let (merging, own) := entries.partition fun entry => entry.1.tag = .mergeKey
  let merged ← merging.mapM fun entry => mergedEntries entry.2
  return merged.flatten ++ own.map fun entry => (plainKey entry.1, entry.2)

mutual

/-- Merges mappings at every depth of a node. -/
def merged : Node → Except Fault Node
  | .scalar tag content => .ok (.scalar tag content)
  | .unfinished => .ok .unfinished
  | .sequence tag items => do return .sequence tag (← mergedItems items)
  | .mapping tag entries => do return .mapping tag (← mergeEntries (← mergedPairs entries))
termination_by structural node => node

/-- Merges mappings in the items of a sequence. -/
def mergedItems : List Node → Except Fault (List Node)
  | [] => .ok []
  | item :: rest => do return (← merged item) :: (← mergedItems rest)
termination_by structural items => items

/-- Merges mappings in the entries of a mapping. -/
def mergedPairs : List (Node × Node) → Except Fault (List (Node × Node))
  | [] => .ok []
  | (key, value) :: rest => do return (← merged key, ← merged value) :: (← mergedPairs rest)
termination_by structural entries => entries

end

/-- The value of a scalar. -/
def scalarValue (tag : Tag) (content : String) : Except Fault Scalar :=
  match tag with
  | .null => .ok .null
  | .boolean =>
    let lower := String.ofList (content.toList.map Char.toLower)
    match truthWords.find? (·.1 = lower) with
    | some (_, value) => .ok (.boolean value)
    | none => .error .unknownTruth
  | .integer => (integerOf content).map Scalar.integer
  | .real => (realOf content).map Scalar.real
  | .text => .ok (.text content)
  | _ => .error .badValue

/-- Writes an entry; equal keys are one key. -/
def putEntry (entries : List (Scalar × Datum)) (key : Scalar) (value : Datum) :
    List (Scalar × Datum) :=
  match entries with
  | [] => [(key, value)]
  | (present, old) :: rest =>
    if present.same key then (present, value) :: rest else (present, old) :: putEntry rest key value

mutual

/-- The value of a node. -/
def valueOf : Node → Except Fault Datum
  | .scalar tag content => (scalarValue tag content).map Datum.scalar
  | .sequence .sequence items => do return .list (← itemsOf items)
  | .mapping .mapping entries => do return .map (← entriesOf [] entries)
  | .mapping .set entries => do
    return .map ((← entriesOf [] entries).map fun entry => (entry.1, .null))
  | _ => .error .badValue
termination_by structural node => node

/-- The values of the items of a sequence. -/
def itemsOf : List Node → Except Fault (List Datum)
  | [] => .ok []
  | item :: rest => do return (← valueOf item) :: (← itemsOf rest)
termination_by structural items => items

/-- The entries of a mapping after those already read; a key is a scalar. -/
def entriesOf (read : List (Scalar × Datum)) :
    List (Node × Node) → Except Fault (List (Scalar × Datum))
  | [] => .ok read
  | (key, value) :: rest => do
    match ← valueOf key with
    | .scalar key => entriesOf (putEntry read key (← valueOf value)) rest
    | _ => .error .badValue
termination_by structural entries => entries

end

/-- The value of the only document of a text; without a document there is none. -/
def read (text : String) : Except Fault Datum := do
  match ← Node.ofText? text with
  | some node => valueOf (← merged node)
  | none => return .null

theorem read_empty : read "" = .ok .null := by rfl

end RouteTable.Yaml
