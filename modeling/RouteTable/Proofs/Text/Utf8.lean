/-
**Encoded text is decoded.**

The bytes of a text are read as that text: a lead byte announces its character, and the bytes after
it lie in the range that it sets for them.

* `foldl_eq`: folding over bytes is folding over their list;
* `ofLead?_two`, `ofLead?_three`, `ofLead?_four`: what the lead byte of a character announces;
* `encoded_bytes`, `read_bytes`: the bytes of a character are read as that character;
* `decode_toUTF8`: the bytes of a text are decoded to it.
-/

import RouteTable.Text.Utf8

namespace RouteTable.Text.Utf8

/-! ## Folding over bytes -/

section Fold

variable {β : Type} (read : β → UInt8 → β) (bytes : ByteArray)

theorem foldlM_loop_eq (left index : Nat) (all : index + left = bytes.size) (start : β) :
    ByteArray.foldlM.loop (m := Id) (fun value byte => pure (read value byte)) bytes bytes.size
        (Nat.le_refl _) left index start =
      (bytes.data.toList.drop index).foldl read start := by
  induction left generalizing index start with
  | zero =>
    rw [ByteArray.foldlM.loop, dif_neg (by omega),
      List.drop_of_length_le (by simpa using Nat.le_of_eq all.symm)]
    rfl
  | succ left ih =>
    have inside : index < bytes.size := by omega
    have next : bytes.data.toList.drop index =
        bytes[index] :: bytes.data.toList.drop (index + 1) :=
      List.drop_eq_getElem_cons (by simpa using inside)
    rw [ByteArray.foldlM.loop, dif_pos inside, next]
    exact ih (index + 1) (by omega) _

theorem foldl_eq (start : β) :
    bytes.foldl read start = bytes.data.toList.foldl read start := by
  rw [ByteArray.foldl, ByteArray.foldlM, dif_pos (Nat.le_refl _)]
  exact foldlM_loop_eq read bytes bytes.size 0 (Nat.zero_add _) start

end Fold

/-! ## The bytes of a character -/

namespace Reading

variable {characters : Array Char} {fault : Option Fault} {position : Nat}

theorem step_single {number : Nat} (small : number < 0x80) :
    (⟨characters, fault, position, none⟩ : Reading).step number =
      ⟨characters.push (Char.ofNat number), fault, position + 1, none⟩ := by
  rw [step]
  dsimp only
  rw [start, if_pos small]
  rfl

theorem step_lead {byte : Nat} {pending : Pending} (announced : Pending.ofLead? byte = some pending)
    (large : 0x80 ≤ byte) :
    (⟨characters, fault, position, none⟩ : Reading).step byte =
      ⟨characters, fault, position + 1, some pending⟩ := by
  rw [step]
  dsimp only
  rw [start, if_neg (Nat.not_lt.mpr large), announced]
  rfl

/-- A byte in the range that was set for it. -/
theorem step_next {pending : Pending} {byte : Nat}
    (inside : pending.low ≤ byte ∧ byte ≤ pending.high) :
    (⟨characters, fault, position, some pending⟩ : Reading).step byte =
      let number := pending.number * 64 + (byte - 0x80)
      if pending.owed ≤ 1 then
        ⟨characters.push (Char.ofNat number), fault, position + 1, none⟩
      else
        ⟨characters, fault, position + 1,
          some ⟨pending.owed - 1, 0x80, 0xBF, number, pending.lead, pending.read + 1⟩⟩ := by
  rw [step]
  dsimp only
  rw [if_pos inside]
  split <;> rfl

end Reading

namespace Pending

theorem ofLead?_two {number : Nat} (low : 0x80 ≤ number) (high : number < 0x800) :
    ofLead? (number / 64 + 0xC0) =
      some ⟨1, 0x80, 0xBF, number / 64, number / 64 + 0xC0, 1⟩ := by
  rw [ofLead?, if_pos (by omega), Nat.add_sub_cancel]

/-- The second of three bytes lies in the range that the first one sets for it. -/
theorem ofLead?_three {number : Nat} (low : 0x800 ≤ number) (high : number < 0x10000)
    (plain : number < 0xD800 ∨ 0xDFFF < number) :
    ∃ least most, ofLead? (number / 4096 + 0xE0) =
        some ⟨2, least, most, number / 4096, number / 4096 + 0xE0, 1⟩ ∧
      least ≤ number / 64 % 64 + 0x80 ∧ number / 64 % 64 + 0x80 ≤ most := by
  rw [ofLead?, if_neg (by omega)]
  split
  · rw [show number / 4096 = 0 by omega]
    exact ⟨_, _, rfl, by omega, by omega⟩
  split
  · rw [show number / 4096 = 0xD by omega]
    exact ⟨_, _, rfl, by omega, by omega⟩
  rw [if_pos (by omega), Nat.add_sub_cancel]
  exact ⟨_, _, rfl, by omega, by omega⟩

/-- The second of four bytes lies in the range that the first one sets for it. -/
theorem ofLead?_four {number : Nat} (low : 0x10000 ≤ number) (high : number < 0x110000) :
    ∃ least most, ofLead? (number / 262144 + 0xF0) =
        some ⟨3, least, most, number / 262144, number / 262144 + 0xF0, 1⟩ ∧
      least ≤ number / 4096 % 64 + 0x80 ∧ number / 4096 % 64 + 0x80 ≤ most := by
  rw [ofLead?, if_neg (by omega), if_neg (by omega), if_neg (by omega), if_neg (by omega)]
  split
  · rw [show number / 262144 = 0 by omega]
    exact ⟨_, _, rfl, by omega, by omega⟩
  split
  · rw [show number / 262144 = 4 by omega]
    exact ⟨_, _, rfl, by omega, by omega⟩
  rw [if_pos (by omega), Nat.add_sub_cancel]
  exact ⟨_, _, rfl, by omega, by omega⟩

end Pending

/-- The bytes of a code point. -/
def bytesOf (number : Nat) : List Nat :=
  if number < 0x80 then [number]
  else if number < 0x800 then [number / 64 + 0xC0, number % 64 + 0x80]
  else if number < 0x10000 then
    [number / 4096 + 0xE0, number / 64 % 64 + 0x80, number % 64 + 0x80]
  else
    [number / 262144 + 0xF0, number / 4096 % 64 + 0x80, number / 64 % 64 + 0x80,
      number % 64 + 0x80]

theorem toNat_lt (char : Char) : char.val.toNat < 0x110000 := by
  rcases char.valid with low | high
  · exact Nat.lt_trans low (by decide)
  · exact high.2

theorem encoded_bytes (char : Char) :
    (String.utf8EncodeChar char).map UInt8.toNat = bytesOf char.val.toNat := by
  have bound := toNat_lt char
  rw [String.utf8EncodeChar, bytesOf]
  generalize char.val.toNat = number at bound
  by_cases one : number < 0x80
  · rw [if_pos (by omega), if_pos one]
    simp only [List.map_cons, List.map_nil, UInt8.toNat_ofNat', List.cons.injEq, and_true]
    omega
  by_cases two : number < 0x800
  · rw [if_neg (by omega), if_pos (by omega), if_neg one, if_pos two]
    simp only [List.map_cons, List.map_nil, UInt8.toNat_ofNat', List.cons.injEq, and_true]
    omega
  rw [if_neg (by omega), if_neg (by omega), if_neg one, if_neg two]
  by_cases three : number < 0x10000
  · rw [if_pos (by omega), if_pos three]
    simp only [List.map_cons, List.map_nil, UInt8.toNat_ofNat', List.cons.injEq, and_true]
    omega
  · rw [if_neg (by omega), if_neg three]
    simp only [List.map_cons, List.map_nil, UInt8.toNat_ofNat', List.cons.injEq, and_true]
    omega

namespace Reading

/-- The characters that were read so far, without a fault and up to the end of the last one. -/
def Holds (text : List Char) (reading : Reading) : Prop :=
  ∃ position, reading = ⟨text.toArray, none, position, none⟩

/-- **The bytes of a character are read as that character.** -/
theorem read_bytes {text : List Char} {reading : Reading} (holds : reading.Holds text)
    {number : Nat} (bound : number < 0x110000) (plain : number < 0xD800 ∨ 0xDFFF < number) :
    Holds (text ++ [Char.ofNat number]) ((bytesOf number).foldl step reading) := by
  obtain ⟨position, rfl⟩ := holds
  rw [bytesOf]
  split
  · next small =>
    exact ⟨_, by rw [List.foldl_cons, step_single small, List.push_toArray]; rfl⟩
  next large =>
  split
  · next small =>
    have lead := Pending.ofLead?_two (Nat.not_lt.mp large) small
    have last : number / 64 * 64 + (number % 64 + 0x80 - 0x80) = number := by omega
    rw [List.foldl_cons, step_lead lead (by omega), List.foldl_cons,
      step_next (by dsimp only; omega)]
    dsimp only
    rw [if_pos (by decide), last, List.push_toArray]
    exact ⟨_, rfl⟩
  next beyond =>
  split
  · next small =>
    obtain ⟨least, most, lead, range⟩ := Pending.ofLead?_three (Nat.not_lt.mp beyond) small plain
    have last : (number / 4096 * 64 + (number / 64 % 64 + 0x80 - 0x80)) * 64 +
        (number % 64 + 0x80 - 0x80) = number := by omega
    rw [List.foldl_cons, step_lead lead (by omega), List.foldl_cons, step_next range]
    dsimp only
    rw [if_neg (by decide), List.foldl_cons, step_next (by dsimp only; omega)]
    dsimp only
    rw [if_pos (by decide), last, List.push_toArray]
    exact ⟨_, rfl⟩
  · next large =>
    obtain ⟨least, most, lead, range⟩ := Pending.ofLead?_four (Nat.not_lt.mp large) bound
    have last : ((number / 262144 * 64 + (number / 4096 % 64 + 0x80 - 0x80)) * 64 +
        (number / 64 % 64 + 0x80 - 0x80)) * 64 + (number % 64 + 0x80 - 0x80) = number := by omega
    rw [List.foldl_cons, step_lead lead (by omega), List.foldl_cons, step_next range]
    dsimp only
    rw [if_neg (by decide), List.foldl_cons, step_next (by dsimp only; omega)]
    dsimp only
    rw [if_neg (by decide), List.foldl_cons, step_next (by dsimp only; omega)]
    dsimp only
    rw [if_pos (by decide), last, List.push_toArray]
    exact ⟨_, rfl⟩

/-- The bytes of a text are read as that text. -/
theorem read_text (rest : List Char) {text : List Char} {reading : Reading}
    (holds : reading.Holds text) : Holds (text ++ rest)
      ((rest.flatMap String.utf8EncodeChar).foldl (fun reading byte => reading.step byte.toNat)
        reading) := by
  induction rest generalizing text reading with
  | nil => rwa [List.append_nil]
  | cons char later ih =>
    have plain : char.val.toNat < 0xD800 ∨ 0xDFFF < char.val.toNat := char.valid.imp_right And.left
    have next := read_bytes holds (toNat_lt char) plain
    rw [← encoded_bytes, List.foldl_map] at next
    have same : Char.ofNat char.val.toNat = char := Char.ofNat_toNat char
    rw [same] at next
    rw [List.flatMap_cons, List.foldl_append, ← List.singleton_append, ← List.append_assoc]
    exact ih next

end Reading

/-- **Encoded text is decoded.** -/
theorem decode_toUTF8 (text : String) : decode text.toUTF8 = .ok text := by
  have bytes : text.toUTF8.data.toList = text.toList.flatMap String.utf8EncodeChar := by
    rw [String.toUTF8_eq_toByteArray, ← String.utf8Encode_toList, List.utf8Encode,
      List.toList_data_toByteArray]
  obtain ⟨position, read⟩ := @Reading.read_text text.toList [] {} ⟨0, rfl⟩
  rw [decode, readAll, foldl_eq, bytes, read, List.nil_append]
  exact congrArg Except.ok String.ofList_toList

end RouteTable.Text.Utf8
