/-
**Options by symbol.**

The options of a call are written under symbols, texts and other expressions. Those under symbols
are the options by name.

* `Call.keywordOptions_eq`: the options by name as the entries under symbols;
* `get?_namedEntries`, `get?_ofEntries_namedEntries`: a name has the value of its symbol.
-/

import RouteTable.Call
import RouteTable.Proofs.Assoc

namespace RouteTable

/-- The name of an option, if it is a symbol. -/
def Atom.symbolName? : Atom → Option String
  | .symbol name => some name
  | _ => none

theorem Call.keywordOptions_eq (call : Call) :
    call.keywordOptions = match call.options with
      | none => .error .options
      | some entries => .ok <| Assoc.ofEntries <| entries.filterMap fun entry =>
          entry.1.symbolName?.map fun name => (name, entry.2) := by
  rw [keywordOptions]
  congr 1
  funext entries
  congr 3
  funext entry
  cases entry.1 <;> rfl

/-- What is written at a call under symbols. -/
def namedEntries (entries : List (Atom × Value)) : Assoc String Value :=
  entries.filterMap fun entry => entry.1.symbolName?.map fun name => (name, entry.2)

/-- A name has the value of its symbol. -/
theorem get?_namedEntries (entries : List (Atom × Value)) (name : String) :
    (namedEntries entries).get? name = Assoc.get? entries (.symbol name) := by
  induction entries with
  | nil => rfl
  | cons entry rest ih =>
    obtain ⟨key, value⟩ := entry
    cases key with
    | symbol written =>
      show Assoc.get? ((written, value) :: namedEntries rest) name = _
      simp only [Assoc.get?, ih, Atom.symbol.injEq]
    | text | interpolated | pattern | identifier | expression | nothing =>
      exact ih.trans (if_neg (by simp)).symm

/-- Where every key is written once, the options by name are those under symbols. -/
theorem get?_ofEntries_namedEntries {options : List (Atom × Value)}
    (distinct : (Assoc.keys options).Nodup) (name : String) :
    (Assoc.ofEntries (namedEntries options)).get? name = Assoc.get? options (.symbol name) := by
  have reversed : (namedEntries options).reverse = namedEntries options.reverse :=
    List.filterMap_reverse.symm
  rw [Assoc.get?_ofEntries, reversed, get?_namedEntries, Assoc.get?_reverse distinct]

end RouteTable
