/-
**Maps kept in insertion order.**

A map is the list of its entries. Writing a key that is present keeps its place and takes the new
value; writing a new key adds an entry at the end.

* `get?_put`: after a write, the written key has the written value and every other key keeps its own;
* `keys_put`: a write adds its key to the keys if it is new and changes no place otherwise.
-/

namespace RouteTable

/-- A map kept in insertion order, as the list of its entries. -/
abbrev Assoc (κ ν : Type) : Type := List (κ × ν)

namespace Assoc

variable {κ ν : Type}

/-- The keys in order. -/
def keys (map : Assoc κ ν) : List κ := map.map Prod.fst

variable [DecidableEq κ]

/-- The value of a key. -/
def get? : Assoc κ ν → κ → Option ν
  | [], _ => none
  | (key, value) :: rest, wanted => if key = wanted then some value else get? rest wanted

/-- Whether a key is present. -/
def contains (map : Assoc κ ν) (key : κ) : Bool := (map.get? key).isSome

/-- Writes a value: a present key keeps its place, a new one goes to the end. -/
def put : Assoc κ ν → κ → ν → Assoc κ ν
  | [], key, value => [(key, value)]
  | (present, old) :: rest, key, value =>
    if present = key then (present, value) :: rest else (present, old) :: put rest key value

/-- Writes every entry of `other` in order. -/
def merge (map other : Assoc κ ν) : Assoc κ ν :=
  other.foldl (fun merged entry => merged.put entry.1 entry.2) map

/-- The map that a list of writes leaves behind. -/
def ofEntries (entries : List (κ × ν)) : Assoc κ ν := merge [] entries

theorem get?_put (map : Assoc κ ν) (key wanted : κ) (value : ν) :
    (map.put key value).get? wanted = if key = wanted then some value else map.get? wanted := by
  induction map with
  | nil => rfl
  | cons entry rest ih =>
    obtain ⟨present, old⟩ := entry
    by_cases same : present = key
    · subst same
      by_cases hit : present = wanted <;> simp [put, get?, hit]
    · by_cases hit : present = wanted
      · subst hit
        simp [put, get?, same, Ne.symm same]
      · simp [put, get?, same, hit, ih]

theorem keys_put (map : Assoc κ ν) (key : κ) (value : ν) :
    (map.put key value).keys = if key ∈ map.keys then map.keys else map.keys ++ [key] := by
  induction map with
  | nil => rfl
  | cons entry rest ih =>
    by_cases same : entry.1 = key
    · simp [put, keys, same]
    · simp only [keys] at ih
      by_cases present : key ∈ rest.map Prod.fst <;>
        simp [put, keys, same, ih, present, show key ≠ entry.1 from fun equal => same equal.symm]

end Assoc

end RouteTable
