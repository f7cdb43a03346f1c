/-
**Reading UTF-8.**

Bytes are read one at a time. A lead byte says how many bytes must follow and, to keep out
overlong forms, surrogates and numbers beyond the last code point, in which range the first of
them lies. A piece that is not well formed counts as one fault: in a strict reading the first
fault is the answer, in a lenient one each fault becomes the replacement character.
-/

namespace RouteTable.Text.Utf8

/-- Why a piece of a byte sequence is not UTF-8. -/
inductive Reason
  | invalidStart
  | invalidContinuation
  | unexpectedEnd
deriving DecidableEq, Repr

namespace Reason

/-- The wording of a reason. -/
def message : Reason → String
  | .invalidStart => "invalid start byte"
  | .invalidContinuation => "invalid continuation byte"
  | .unexpectedEnd => "unexpected end of data"

end Reason

/-- A piece that is not UTF-8: its place, its first byte and its length. -/
structure Fault where
  position : Nat
  byte : Nat
  length : Nat
  reason : Reason
deriving DecidableEq, Repr

/-- A character of which some bytes are read: how many are owed, the range of the next one, the
number so far, the lead byte and how many bytes are read. -/
structure Pending where
  owed : Nat
  low : Nat
  high : Nat
  number : Nat
  lead : Nat
  read : Nat
deriving DecidableEq, Repr

/-- What a lead byte announces. -/
def Pending.ofLead? (byte : Nat) : Option Pending :=
  if 0xC2 ≤ byte ∧ byte < 0xE0 then some ⟨1, 0x80, 0xBF, byte - 0xC0, byte, 1⟩
  else if byte = 0xE0 then some ⟨2, 0xA0, 0xBF, 0, byte, 1⟩
  else if byte = 0xED then some ⟨2, 0x80, 0x9F, 0xD, byte, 1⟩
  else if 0xE0 < byte ∧ byte < 0xF0 then some ⟨2, 0x80, 0xBF, byte - 0xE0, byte, 1⟩
  else if byte = 0xF0 then some ⟨3, 0x90, 0xBF, 0, byte, 1⟩
  else if byte = 0xF4 then some ⟨3, 0x80, 0x8F, 4, byte, 1⟩
  else if 0xF0 < byte ∧ byte < 0xF4 then some ⟨3, 0x80, 0xBF, byte - 0xF0, byte, 1⟩
  else none

/-- A reading in progress. -/
structure Reading where
  characters : Array Char := #[]
  fault : Option Fault := none
  position : Nat := 0
  pending : Option Pending := none

namespace Reading

/-- Adds a character. -/
def emit (char : Char) : Reading → Reading
  | ⟨characters, fault, position, _⟩ => ⟨characters.push char, fault, position, none⟩

/-- Counts a byte. -/
def advance : Reading → Reading
  | ⟨characters, fault, position, pending⟩ => ⟨characters, fault, position + 1, pending⟩

/-- Ends a piece that is not well formed. -/
def broken (byte length : Nat) (reason : Reason) : Reading → Reading
  | ⟨characters, fault, position, _⟩ =>
    ⟨characters.push (Char.ofNat 0xFFFD), fault.or (some ⟨position - length, byte, length, reason⟩),
      position, none⟩

/-- Waits for the rest of a character. -/
def await (later : Pending) : Reading → Reading
  | ⟨characters, fault, position, _⟩ => ⟨characters, fault, position, some later⟩

/-- Reads a byte that begins a character. -/
def start (byte : Nat) (reading : Reading) : Reading :=
  if byte < 0x80 then (reading.emit (Char.ofNat byte)).advance
  else match Pending.ofLead? byte with
    | some pending => (reading.await pending).advance
    | none => reading.advance.broken byte 1 .invalidStart

/-- Reads one byte. -/
def step (reading : Reading) (byte : Nat) : Reading :=
  match reading.pending with
  | none => reading.start byte
  | some pending =>
    if pending.low ≤ byte ∧ byte ≤ pending.high then
      let number := pending.number * 64 + (byte - 0x80)
      if pending.owed ≤ 1 then (reading.emit (Char.ofNat number)).advance
      else
        (reading.await ⟨pending.owed - 1, 0x80, 0xBF, number, pending.lead,
          pending.read + 1⟩).advance
    else (reading.broken pending.lead pending.read .invalidContinuation).start byte

/-- Ends a reading. -/
def finish (reading : Reading) : Reading :=
  match reading.pending with
  | none => reading
  | some pending => reading.broken pending.lead pending.read .unexpectedEnd

end Reading

/-- Reads a sequence of bytes. -/
def readAll (bytes : ByteArray) : Reading :=
  (bytes.foldl (fun reading byte => reading.step byte.toNat) ({} : Reading)).finish

/-- The text that bytes stand for, or the first fault. -/
def decode (bytes : ByteArray) : Except Fault String :=
  let reading := readAll bytes
  match reading.fault with
  | some fault => .error fault
  | none => .ok (String.ofList reading.characters.toList)

/-- The text that bytes stand for, with the replacement character for each fault. -/
def decodeLenient (bytes : ByteArray) : String :=
  String.ofList (readAll bytes).characters.toList

end RouteTable.Text.Utf8
