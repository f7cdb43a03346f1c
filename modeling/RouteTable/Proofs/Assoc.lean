/-
**What a map holds.**

An entry of a map is found under its key, and every entry of a map that was written into was there
before or is what was written.

* `mem_of_get?`, `get?_of_mem`: what is found under a key is an entry, and the other way round;
* `get?_filter`: what is found among the entries of some keys;
* `filter_put`, `filter_merge`: writes among the entries of some keys;
* `get?_filter_ne`, `filter_put_ne`: a write concerns its own key alone;
* `put_new`: a new key is added at the end;
* `mem_of_mem_put`, `mem_of_mem_merge`: the entries after one write and after many;
* `get?_merge`, `get?_merge_ofEntries`: the last of many writes to a key wins;
* `keys_foldl_put`: the keys after many writes come in order of first occurrence;
* `lastWins_ofEntries`: what a list of writes leaves behind.
-/

import RouteTable.Assoc

namespace RouteTable

namespace Assoc

variable {κ ν : Type} [DecidableEq κ]

/-- Of the entries with keys of one kind, those of another kind are not found. -/
theorem get?_filter (keep : κ → Bool) (map : Assoc κ ν) (wanted : κ) :
    get? (map.filter fun entry => keep entry.1) wanted =
      if keep wanted then map.get? wanted else none := by
  induction map with
  | nil => exact (ite_self none).symm
  | cons entry rest ih =>
    by_cases kept : keep entry.1
    · rw [List.filter_cons_of_pos (by exact kept), get?, get?, ih]
      by_cases hit : entry.1 = wanted
      · rw [if_pos hit, if_pos hit, if_pos (hit ▸ kept)]
      · rw [if_neg hit, if_neg hit]
    · rw [List.filter_cons_of_neg (by exact kept), ih, get?]
      by_cases hit : entry.1 = wanted
      · rw [if_neg (hit ▸ kept), if_neg (hit ▸ kept)]
      · rw [if_neg hit]

theorem get?_filter_ne (map : Assoc κ ν) {key wanted : κ} (other : wanted ≠ key) :
    get? (map.filter fun entry => entry.1 ≠ key) wanted = map.get? wanted := by
  simpa [other] using get?_filter (fun present => decide (present ≠ key)) map wanted

theorem mem_of_get? {map : Assoc κ ν} {key : κ} {value : ν} (found : map.get? key = some value) :
    (key, value) ∈ map := by
  induction map with
  | nil => cases found
  | cons entry rest ih =>
    by_cases hit : entry.1 = key
    · rw [get?, if_pos hit] at found
      cases found
      subst hit
      exact List.mem_cons_self
    · rw [get?, if_neg hit] at found
      exact List.mem_cons_of_mem _ (ih found)

/-- A write to a kept key is a write to the entries with kept keys, and any other write is not seen
among them. -/
theorem filter_put (keep : κ → Bool) (map : Assoc κ ν) (key : κ) (value : ν) :
    (map.put key value).filter (fun entry => keep entry.1) =
      if keep key then put (map.filter fun entry => keep entry.1) key value
      else map.filter fun entry => keep entry.1 := by
  induction map with
  | nil => cases kept : keep key <;> simp [put, kept]
  | cons entry rest ih =>
    by_cases same : entry.1 = key
    · subst same
      cases kept : keep entry.1 <;> simp [put, kept]
    · rw [put, if_neg same]
      by_cases held : keep entry.1 = true
      · rw [List.filter_cons_of_pos (by exact held), List.filter_cons_of_pos (by exact held), ih,
          put, if_neg same]
        split <;> rfl
      · rw [List.filter_cons_of_neg (by exact held), List.filter_cons_of_neg (by exact held), ih]

/-- A write changes nothing but its own key. -/
theorem filter_put_ne (map : Assoc κ ν) (key : κ) (value : ν) :
    (map.put key value).filter (fun entry => entry.1 ≠ key) =
      map.filter fun entry => entry.1 ≠ key := by
  simpa using filter_put (fun present => decide (present ≠ key)) map key value

/-- Of many writes, those to kept keys give the entries with kept keys. -/
theorem filter_merge (keep : κ → Bool) (map other : Assoc κ ν) :
    (map.merge other).filter (fun entry => keep entry.1) =
      merge (map.filter fun entry => keep entry.1) (other.filter fun entry => keep entry.1) := by
  induction other generalizing map with
  | nil => rfl
  | cons entry rest ih =>
    have further : map.merge (entry :: rest) = (map.put entry.1 entry.2).merge rest := rfl
    rw [further, ih, filter_put]
    by_cases kept : keep entry.1 = true
    · rw [if_pos kept, List.filter_cons_of_pos (by exact kept)]
      rfl
    · rw [if_neg kept, List.filter_cons_of_neg (by exact kept)]

/-- A new key is added at the end. -/
theorem put_new {map : Assoc κ ν} {key : κ} (new : key ∉ map.keys) (value : ν) :
    map.put key value = map ++ [(key, value)] := by
  induction map with
  | nil => rfl
  | cons entry rest ih =>
    obtain ⟨present, old⟩ := entry
    have other : present ≠ key := fun same => new (same ▸ List.mem_cons_self)
    have later : key ∉ keys rest := fun inside => new (List.mem_cons_of_mem _ inside)
    rw [put, if_neg other, ih later, List.cons_append]

/-- A write keeps the keys different. -/
theorem keys_put_nodup {map : Assoc κ ν} (distinct : map.keys.Nodup) (key : κ) (value : ν) :
    (map.put key value).keys.Nodup := by
  rw [keys_put]
  split
  · exact distinct
  · next new =>
    refine List.nodup_append.mpr ⟨distinct, by simp, fun other inside last same => ?_⟩
    rw [List.mem_singleton.mp same]
    exact fun equal => new (equal ▸ inside)

theorem mem_of_mem_put {map : Assoc κ ν} {key : κ} {value : ν} {entry : κ × ν}
    (inside : entry ∈ map.put key value) : entry = (key, value) ∨ entry ∈ map := by
  induction map with
  | nil => exact .inl (List.mem_singleton.mp inside)
  | cons head rest ih =>
    by_cases same : head.1 = key
    · rw [put, if_pos same] at inside
      rcases List.mem_cons.mp inside with rfl | later
      · exact .inl (same ▸ rfl)
      · exact .inr (List.mem_cons_of_mem _ later)
    · rw [put, if_neg same] at inside
      rcases List.mem_cons.mp inside with rfl | later
      · exact .inr List.mem_cons_self
      · exact (ih later).imp_right (List.mem_cons_of_mem _)

/-- What a map holds after further entries are written was in it or is one of them. -/
theorem mem_of_mem_merge {map other : Assoc κ ν} {entry : κ × ν}
    (inside : entry ∈ map.merge other) : entry ∈ map ∨ entry ∈ other := by
  induction other generalizing map with
  | nil => exact .inl inside
  | cons head rest ih =>
    rw [merge, List.foldl_cons] at inside
    rcases ih inside with written | later
    · rcases mem_of_mem_put written with rfl | old
      · exact .inr List.mem_cons_self
      · exact .inl old
    · exact .inr (List.mem_cons_of_mem head later)

theorem mem_of_mem_ofEntries {entries : List (κ × ν)} {entry : κ × ν}
    (inside : entry ∈ ofEntries entries) : entry ∈ entries :=
  (mem_of_mem_merge inside).resolve_left List.not_mem_nil

/-! ## The last write wins -/

theorem get?_append (first second : Assoc κ ν) (key : κ) :
    get? (first ++ second) key = (get? first key).or (get? second key) := by
  induction first with
  | nil => rfl
  | cons entry rest ih =>
    by_cases hit : entry.1 = key
    · simp [get?, hit]
    · simp [get?, hit, ih]

/-- A key that was written has the value of its last write, and every other key keeps its own. -/
theorem get?_merge (map other : Assoc κ ν) (key : κ) :
    (map.merge other).get? key = (get? other.reverse key).or (map.get? key) := by
  induction other generalizing map with
  | nil => rfl
  | cons entry rest ih =>
    have further : map.merge (entry :: rest) = (map.put entry.1 entry.2).merge rest := rfl
    rw [further, ih, get?_put, List.reverse_cons, get?_append]
    by_cases hit : entry.1 = key
    · simp [get?, hit]
    · simp [get?, hit]

theorem get?_ofEntries (entries : List (κ × ν)) (key : κ) :
    (ofEntries entries).get? key = get? entries.reverse key := by
  rw [ofEntries, get?_merge]
  exact Option.or_none

theorem get?_eq_none_iff {map : Assoc κ ν} {key : κ} :
    map.get? key = none ↔ key ∉ map.keys := by
  induction map with
  | nil => simp [get?, keys]
  | cons entry rest ih =>
    by_cases hit : entry.1 = key
    · simp [get?, keys, hit]
    · have other : key ≠ entry.1 := fun same => hit same.symm
      simpa [get?, keys, hit, other] using ih

theorem contains_iff {map : Assoc κ ν} {key : κ} : map.contains key = true ↔ key ∈ map.keys := by
  rw [contains, Option.isSome_iff_ne_none, ne_eq, get?_eq_none_iff]
  exact Decidable.not_not

theorem contains_reverse (map : Assoc κ ν) (key : κ) :
    contains map.reverse key = map.contains key := by
  rw [Bool.eq_iff_iff, contains_iff, contains_iff, keys, List.map_reverse, List.mem_reverse]
  rfl

theorem contains_ofEntries {entries : List (κ × ν)} {key : κ} :
    (ofEntries entries).contains key = true ↔ key ∈ entries.map Prod.fst := by
  rw [contains, get?_ofEntries, ← contains, contains_reverse]
  exact contains_iff

/-- Writes keep the keys different, whatever the values depend on. -/
theorem keys_foldl_put_nodup {α : Type} (key : α → κ) (value : Assoc κ ν → α → ν) (items : List α)
    {map : Assoc κ ν} (distinct : map.keys.Nodup) :
    (items.foldl (fun map item => map.put (key item) (value map item)) map).keys.Nodup := by
  induction items generalizing map with
  | nil => exact distinct
  | cons item rest ih => exact ih (keys_put_nodup distinct (key item) (value map item))

theorem keys_merge_nodup {map : Assoc κ ν} (distinct : map.keys.Nodup) (other : Assoc κ ν) :
    (map.merge other).keys.Nodup :=
  keys_foldl_put_nodup Prod.fst (fun _ entry => entry.2) other distinct

theorem keys_ofEntries_nodup (entries : List (κ × ν)) : (ofEntries entries).keys.Nodup :=
  have start : (keys ([] : Assoc κ ν)).Nodup := .nil
  keys_merge_nodup start entries

/-- Where the keys are different, an entry is found under its key. -/
theorem get?_of_mem {map : Assoc κ ν} (distinct : map.keys.Nodup) {entry : κ × ν}
    (inside : entry ∈ map) : map.get? entry.1 = some entry.2 := by
  induction map with
  | nil => cases inside
  | cons head rest ih =>
    obtain ⟨new, others⟩ := List.nodup_cons.mp distinct
    rcases List.mem_cons.mp inside with rfl | later
    · rw [get?, if_pos rfl]
    · have other : head.1 ≠ entry.1 := fun same => new (same ▸ List.mem_map_of_mem later)
      rw [get?, if_neg other, ih others later]

/-- Where every key is written once, the order of the entries does not matter. -/
theorem get?_reverse {map : Assoc κ ν} (distinct : map.keys.Nodup) (key : κ) :
    get? map.reverse key = map.get? key := by
  induction map with
  | nil => rfl
  | cons entry rest ih =>
    obtain ⟨new, others⟩ := List.nodup_cons.mp distinct
    rw [List.reverse_cons, get?_append, ih others]
    by_cases hit : entry.1 = key
    · subst hit
      simp [get?, get?_eq_none_iff.mpr new]
    · simp [get?, hit]

/-- Writing entries one by one is writing the map of them. -/
theorem get?_merge_ofEntries (map : Assoc κ ν) (entries : List (κ × ν)) (key : κ) :
    (map.merge (ofEntries entries)).get? key = (get? entries.reverse key).or (map.get? key) := by
  rw [get?_merge, get?_reverse (keys_ofEntries_nodup entries), get?_ofEntries]

/-! ## The first write places a key -/

/-- A write after others: the keys stay in order of first occurrence. -/
theorem keys_put_eraseDups {map : Assoc κ ν} {seen : List κ} (ordered : map.keys = seen.eraseDups)
    (key : κ) (value : ν) : (map.put key value).keys = (seen ++ [key]).eraseDups := by
  rw [keys_put, ordered, List.eraseDups_append]
  by_cases known : key ∈ seen
  · have nothing : [key].removeAll seen = [] := by simp [List.removeAll, known]
    rw [if_pos (List.mem_eraseDups.mpr known), nothing, List.eraseDups_nil, List.append_nil]
  · have same : [key].removeAll seen = [key] := by simp [List.removeAll, known]
    rw [if_neg (mt List.mem_eraseDups.mp known), same]
    rfl

theorem keys_foldl_put_append {α : Type} (key : α → κ) (value : Assoc κ ν → α → ν)
    (items : List α) {map : Assoc κ ν} {seen : List κ} (ordered : map.keys = seen.eraseDups) :
    (items.foldl (fun map item => map.put (key item) (value map item)) map).keys =
      (seen ++ items.map key).eraseDups := by
  induction items generalizing map seen with
  | nil => rw [List.map_nil, List.append_nil, ← ordered]; rfl
  | cons item rest ih =>
    rw [List.foldl_cons, ih (keys_put_eraseDups ordered (key item) (value map item)),
      List.map_cons, List.append_assoc, List.singleton_append]

/-- After many writes the keys are in order of first occurrence, whatever the values depend on. -/
theorem keys_foldl_put {α : Type} (key : α → κ) (value : Assoc κ ν → α → ν) (items : List α) :
    keys (items.foldl (fun map item => put map (key item) (value map item)) []) =
      (items.map key).eraseDups :=
  have start : keys ([] : Assoc κ ν) = List.eraseDups [] := rfl
  keys_foldl_put_append key value items start

theorem keys_ofEntries (entries : List (κ × ν)) :
    (ofEntries entries).keys = (entries.map Prod.fst).eraseDups :=
  keys_foldl_put Prod.fst (fun _ entry => entry.2) entries

/-- The map holds what the writes leave behind: its keys are different, they stand in order of
first occurrence, and each has the value of the last write to it. -/
structure LastWins (entries : List (κ × ν)) (map : Assoc κ ν) : Prop where
  distinct : map.keys.Nodup
  ordered : map.keys = (entries.map Prod.fst).eraseDups
  last : ∀ {before after : List (κ × ν)} {key : κ} {value : ν},
    entries = before ++ (key, value) :: after → key ∉ after.map Prod.fst →
    map.get? key = some value

theorem lastWins_ofEntries (entries : List (κ × ν)) : LastWins entries (ofEntries entries) where
  distinct := keys_ofEntries_nodup entries
  ordered := keys_ofEntries entries
  last := by
    rintro before after key value rfl unwritten
    have later : get? after.reverse key = none := by
      rw [get?_eq_none_iff, keys, List.map_reverse, List.mem_reverse]
      exact unwritten
    rw [get?_ofEntries, List.reverse_append, List.reverse_cons, List.append_assoc, get?_append,
      later]
    simp [get?]

end Assoc

end RouteTable
