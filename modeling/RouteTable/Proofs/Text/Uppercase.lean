/-
**Upper case.**

The upper case of a character may have several characters. There is always one, and the first one is
its own upper case: it can be read off the table that no character moves onto one that moves itself.
The marks of paths and names are their own upper case, and that of nothing else.

* `eq_of_mem_uppercase`: a mark comes from that mark alone;
* `firstRun_not_covers`: a character that another one moves onto does not move;
* `uppercase_head`: an upper case begins with a character that is its own upper case.
-/

import RouteTable.Text.Uppercase

namespace RouteTable

/-! ## Part 1 — marks -/

/-- The characters that play a part in paths and in controller names. -/
def nameMarks : List Char := ['/', ':', '_', '*', '(', ')']

namespace Text

/-- A number that is no code point stands for the character zero. -/
theorem toNat_ofNat_or (point : Nat) :
    (Char.ofNat point).toNat = point ∨ Char.ofNat point = Char.ofNat 0 := by
  by_cases valid : point.isValidChar
  · exact .inl (congrArg Char.toNat (dif_pos valid))
  · exact .inr (dif_neg valid)

/-- No character moves onto a mark of names. -/
theorem CaseRun.shift_not_mem {run : CaseRun} (listed : run ∈ caseRuns) {char : Char}
    (covered : run.covers char.toNat = true) :
    Char.ofNat (char.toNat + run.shift).toNat ∉ nameMarks := by
  have checked : caseRuns.all (fun run => decide (0 ≤ run.first + run.shift) &&
      nameMarks.all fun mark => decide ((mark.toNat : Int) < run.first + run.shift) ||
        decide (run.last + run.shift < mark.toNat)) = true := by
    decide +kernel
  have apart := List.all_eq_true.mp checked run listed
  simp only [Bool.and_eq_true, List.all_eq_true, Bool.or_eq_true, decide_eq_true_eq] at apart
  simp only [covers, Bool.and_eq_true, decide_eq_true_eq] at covered
  obtain ⟨start, away⟩ := apart
  intro inside
  rcases toNat_ofNat_or (char.toNat + run.shift).toNat with same | zero
  · have point := away _ inside
    rw [same] at point
    omega
  · rw [zero] at inside
    exact absurd inside (by decide)

theorem uppercase_ne_nil (char : Char) : uppercase char ≠ [] := by
  have written : ∀ special ∈ specialCasings, special.2 ≠ [] := by decide +kernel
  unfold uppercase
  split
  · exact List.cons_ne_nil _ _
  · split
    · next special found =>
      have some := written special (List.mem_of_find?_eq_some found)
      simpa using some
    · exact List.cons_ne_nil _ _

/-- A mark is the upper case of nothing but itself. -/
theorem eq_of_mem_uppercase {char mark : Char} (raised : mark ∈ uppercase char)
    (named : mark ∈ nameMarks) : mark = char := by
  have apart : ∀ special ∈ specialCasings, ∀ point ∈ special.2, Char.ofNat point ∉ nameMarks := by
    decide +kernel
  unfold uppercase at raised
  split at raised
  · next run found =>
    obtain rfl := List.mem_singleton.mp raised
    have covered := List.find?_some found
    exact absurd named (CaseRun.shift_not_mem (List.mem_of_find?_eq_some found) covered)
  · split at raised
    · next special found =>
      obtain ⟨point, listed, rfl⟩ := List.mem_map.mp raised
      exact absurd named (apart special (List.mem_of_find?_eq_some found) point listed)
    · exact List.mem_singleton.mp raised

/-! ## Part 2 — numbers as bits -/

/-- The union of sets of numbers, where the bits of one number stand for a set. -/
def unionOfBits {α : Type} (bits : α → Nat) (items : List α) : Nat :=
  items.foldr (fun item union => bits item ||| union) 0

theorem testBit_unionOfBits {α : Type} (bits : α → Nat) (items : List α) (point : Nat) :
    (unionOfBits bits items).testBit point = items.any fun item => (bits item).testBit point := by
  induction items with
  | nil => exact Nat.zero_testBit point
  | cons item rest ih =>
    rw [List.any_cons, ← ih]
    exact Nat.testBit_or _ _ _

namespace CaseRun

/-- The points of a run in order. -/
def points (run : CaseRun) : List Nat :=
  List.range' run.first ((run.last - run.first) / run.stride + 1) run.stride

theorem mem_points {run : CaseRun} {point : Nat} (covered : run.covers point = true) :
    point ∈ run.points := by
  simp only [covers, Bool.and_eq_true, decide_eq_true_eq] at covered
  obtain ⟨⟨above, below⟩, regular⟩ := covered
  refine List.mem_range'.mpr ⟨(point - run.first) / run.stride, ?_, ?_⟩
  · exact Nat.lt_succ_of_le (Nat.div_le_div_right (Nat.sub_le_sub_right below _))
  · rw [Nat.mul_div_cancel' (Nat.dvd_of_mod_eq_zero regular), Nat.add_sub_cancel' above]

/-- What the points of a run are taken to, as bits. -/
def bits (image : Nat → Nat) (run : CaseRun) : Nat :=
  unionOfBits (fun point => 1 <<< image point) run.points

theorem testBit_bits {run : CaseRun} {point : Nat} (covered : run.covers point = true)
    (image : Nat → Nat) : (run.bits image).testBit (image point) = true := by
  rw [bits, testBit_unionOfBits]
  exact List.any_eq_true.mpr ⟨point, mem_points covered, by simp⟩

end CaseRun

/-! ## Part 3 — how an upper case begins -/

/-- A special casing as a run of one character, which moves onto the first of several. -/
def specialRun (special : Nat × List Nat) : CaseRun :=
  ⟨special.1, special.1, 1, special.2.headD 0 - special.1⟩

/-- Where the first character of an upper case comes from. -/
def firstRuns : List CaseRun := caseRuns ++ specialCasings.map specialRun

/-- A character that another one moves onto does not move. -/
theorem firstRun_not_covers {run other : CaseRun} (listed : run ∈ firstRuns)
    (known : other ∈ firstRuns) {point : Nat} (covered : run.covers point = true) :
    other.covers (point + run.shift).toNat = false := by
  -- two runs at a time would be too many to compare, so all that moves is compared at once
  have apart : unionOfBits (CaseRun.bits id) firstRuns &&&
      unionOfBits (fun run => run.bits fun point => (point + run.shift).toNat) firstRuns = 0 := by
    decide +kernel
  rw [Bool.eq_false_iff]
  intro moves
  have source : (unionOfBits (CaseRun.bits id) firstRuns).testBit (point + run.shift).toNat =
      true := by
    rw [testBit_unionOfBits]
    exact List.any_eq_true.mpr ⟨other, known, CaseRun.testBit_bits moves id⟩
  have target : (unionOfBits (fun run => run.bits fun point => (point + run.shift).toNat)
      firstRuns).testBit (point + run.shift).toNat = true := by
    rw [testBit_unionOfBits]
    exact List.any_eq_true.mpr ⟨run, listed, CaseRun.testBit_bits covered _⟩
  have both := congrArg (Nat.testBit · (point + run.shift).toNat) apart
  simp [Nat.testBit_and, source, target] at both

/-- A character that does not move is its own upper case. -/
theorem uppercase_of_not_covered {char : Char}
    (still : ∀ run ∈ firstRuns, run.covers char.toNat = false) : uppercase char = [char] := by
  have usual : caseRuns.find? (·.covers char.toNat) = none := by
    refine List.find?_eq_none.mpr fun run listed => ?_
    simp [still run (List.mem_append_left _ listed)]
  have plain : specialCasings.find? (·.1 = char.toNat) = none := by
    refine List.find?_eq_none.mpr fun special listed same => ?_
    have one := still (specialRun special)
      (List.mem_append_right _ (List.mem_map_of_mem listed))
    simp [specialRun, CaseRun.covers, of_decide_eq_true same] at one
  rw [uppercase, usual, plain]

theorem uppercase_of_moved {run : CaseRun} (listed : run ∈ firstRuns) {char : Char}
    (covered : run.covers char.toNat = true) :
    uppercase (Char.ofNat (char.toNat + run.shift).toNat) =
      [Char.ofNat (char.toNat + run.shift).toNat] := by
  rcases toNat_ofNat_or (char.toNat + run.shift).toNat with same | zero
  · refine uppercase_of_not_covered fun other known => ?_
    rw [same]
    exact firstRun_not_covers listed known covered
  · rw [zero]
    decide

/-- **An upper case begins with a character that is its own upper case.** -/
theorem uppercase_head (char : Char) :
    ∃ first rest, uppercase char = first :: rest ∧ uppercase first = [first] := by
  cases usual : caseRuns.find? (·.covers char.toNat) with
  | some run =>
    have covered := List.find?_some usual
    have listed : run ∈ firstRuns := List.mem_append_left _ (List.mem_of_find?_eq_some usual)
    refine ⟨_, [], ?_, uppercase_of_moved listed covered⟩
    rw [uppercase, usual]
  | none =>
    cases unusual : specialCasings.find? (·.1 = char.toNat) with
    | some special =>
      have hit := List.find?_some unusual
      have point : special.1 = char.toNat := of_decide_eq_true hit
      have upper : uppercase char = special.2.map Char.ofNat := by rw [uppercase, usual, unusual]
      obtain ⟨first, rest, written⟩ : ∃ first rest, special.2 = first :: rest := by
        refine List.exists_cons_of_ne_nil fun empty => uppercase_ne_nil char ?_
        rw [upper, empty, List.map_nil]
      have listed : specialRun special ∈ firstRuns :=
        List.mem_append_right _ (List.mem_map_of_mem (List.mem_of_find?_eq_some unusual))
      have covered : (specialRun special).covers char.toNat = true := by
        simp [specialRun, CaseRun.covers, point]
      have target : (char.toNat + (specialRun special).shift).toNat = first := by
        simp only [specialRun, written, point, List.headD_cons]
        omega
      have moved := uppercase_of_moved listed covered
      rw [target] at moved
      exact ⟨Char.ofNat first, rest.map Char.ofNat, by rw [upper, written, List.map_cons], moved⟩
    | none =>
      have same : uppercase char = [char] := by rw [uppercase, usual, unusual]
      exact ⟨char, [], same, same⟩

end Text

end RouteTable
