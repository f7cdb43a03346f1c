/-
**Calls of a routing file.**

A routing file is a list of statements, and a statement that matters is a method call: a name, an
optional receiver, positional arguments, options and an optional block. A part that could not be
read is `none`; asking for it is a `ShapeFault`, the reason why a call is given up.

* `literal?_eq_some_iff`: exactly symbols and texts without interpolation have a literal reading;
* `namesOf_nothing_iff`: exactly an absent value gives no list of names.
-/

import RouteTable.Assoc

namespace RouteTable

/-- A value without parts, as it may stand for a key. -/
inductive Atom
  | symbol (name : String)
  | text (content : String)
  | interpolated (source : String)
  | pattern (source : String)
  | identifier (name : String)
  | expression (source : String)
  | nothing
deriving DecidableEq, Repr, Inhabited

mutual

/-- A value in an argument list, an option or a list of statements. -/
inductive Value
  | atom (atom : Atom)
  | array (items : List Value)
  | hash (entries : List (Atom × Value))
  | call (call : Call)

/-- A method call. -/
structure Call where
  name : String
  line : Int
  receiver : Option Value
  arguments : Option (List Value)
  options : Option (List (Atom × Value))
  block : Option Block

/-- The block that is given to a call. -/
structure Block where
  parameters : Option (List String)
  body : Option (List Value)

end

instance : Inhabited Value := ⟨.atom .nothing⟩

instance : Inhabited Call := ⟨⟨"", 0, none, none, none, none⟩⟩

/-- A part of a call that is asked for and could not be read. -/
inductive ShapeFault
  | options
  | arguments
  | parameters
  | body
deriving DecidableEq, Repr

namespace Atom

/-- The text of a symbol or of a text without interpolation. -/
def literal? : Atom → Option String
  | .symbol name => some name
  | .text content => some content
  | _ => none

theorem literal?_eq_some_iff {atom : Atom} {text : String} :
    atom.literal? = some text ↔ atom = .symbol text ∨ atom = .text text := by
  cases atom <;> simp [literal?]

end Atom

namespace Value

/-- No value. -/
@[match_pattern] abbrev nothing : Value := .atom .nothing

/-- A symbol. -/
@[match_pattern] abbrev symbol (name : String) : Value := .atom (.symbol name)

/-- A text without interpolation. -/
@[match_pattern] abbrev text (content : String) : Value := .atom (.text content)

/-- A text with interpolation. -/
@[match_pattern] abbrev interpolated (source : String) : Value := .atom (.interpolated source)

/-- The text of a symbol or of a text without interpolation. -/
def literal? : Value → Option String
  | .atom plain => plain.literal?
  | _ => none

/-- Whether a value is given. -/
def isGiven : Value → Bool
  | .nothing => false
  | _ => true

/-- Whether a value is the call `redirect` without a receiver. -/
def isRedirect : Value → Bool
  | .call ⟨name, _, receiver, _, _, _⟩ => name = "redirect" && receiver.isNone
  | _ => false

/-- The texts that are not empty. -/
def nonempty (texts : List String) : List String := texts.filter fun text => text ≠ ""

/-- The names that an option lists: one literal, the literals of an array or the literal keys of a
hash. An absent option lists nothing at all, which differs from the empty list. -/
def namesOf : Value → Option (List String)
  | .nothing => none
  | .array items => some (nonempty (items.filterMap literal?))
  | .hash entries => some (nonempty (entries.filterMap fun entry => entry.1.literal?))
  | value => some (nonempty value.literal?.toList)

theorem namesOf_nothing_iff {value : Value} : value.namesOf = none ↔ value = .nothing := by
  constructor
  · intro absent
    unfold namesOf at absent
    split at absent <;> simp_all
  · rintro rfl
    rfl

end Value

/-- The value of an option, absent if the name is not written. -/
def optionValue (options : Assoc String Value) (name : String) : Value :=
  (options.get? name).getD .nothing

namespace Call

/-- The options by symbol, in source order. -/
def keywordOptions (call : Call) : Except ShapeFault (Assoc String Value) :=
  match call.options with
  | none => .error .options
  | some entries => .ok <| Assoc.ofEntries <| entries.filterMap fun entry =>
      match entry.1 with
      | .symbol name => some (name, entry.2)
      | _ => none

/-- The first option whose key is a text, interpolated or not: `"path" => target`. -/
def mapping? (call : Call) : Except ShapeFault (Option (Atom × Value)) :=
  match call.options with
  | none => .error .options
  | some entries => .ok <| entries.find? fun entry =>
      match entry.1 with
      | .text _ | .interpolated _ => true
      | _ => false

/-- The first positional argument. -/
def firstArgument? (call : Call) : Option Value := call.arguments.bind List.head?

/-- The literal reading of the first positional argument. -/
def firstLiteral? (call : Call) : Option String := call.firstArgument?.bind Value.literal?

/-- The literal readings of the positional arguments that are not empty. -/
def literalArguments (call : Call) : Except ShapeFault (List String) :=
  match call.arguments with
  | none => .error .arguments
  | some arguments => .ok (Value.nonempty (arguments.filterMap Value.literal?))

end Call

end RouteTable
