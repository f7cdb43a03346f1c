/-
**Why a file cannot be read.**

The wording is the one of the operating system for a path that leads nowhere, and a description
of the faulty bytes for a file that is not UTF-8. A path with a null character is refused before the
operating system is asked.
-/

import RouteTable.Text.Quoted
import RouteTable.Text.Utf8

namespace RouteTable

/-- Why opening a path fails. -/
inductive OpenFault
  | missing
  | isDirectory
  | throughFile
  | nullCharacter
deriving DecidableEq, Repr

/-- Why reading a text file fails. -/
inductive ReadFault
  | unopened (path : String) (fault : OpenFault)
  | undecodable (fault : Text.Utf8.Fault)
deriving DecidableEq, Repr

namespace OpenFault

/-- The number of a fault of the operating system. -/
def number? : OpenFault → Option Nat
  | .missing => some 2
  | .isDirectory => some 21
  | .throughFile => some 20
  | .nullCharacter => none

/-- The wording of a fault. -/
def wording : OpenFault → String
  | .missing => "No such file or directory"
  | .isDirectory => "Is a directory"
  | .throughFile => "Not a directory"
  | .nullCharacter => "embedded null byte"

/-- The message for a path. -/
def message (fault : OpenFault) (path : String) : String :=
  match fault.number? with
  | some number => s!"[Errno {number}] {fault.wording}: {Text.quoted path}"
  | none => fault.wording

end OpenFault

/-- Where the bytes of a decoding fault are. -/
def Text.Utf8.Fault.message (fault : Text.Utf8.Fault) : String :=
  let place :=
    if fault.length = 1 then
      let byte := String.ofList (Text.Hex.digits 2 fault.byte)
      s!"byte 0x{byte} in position {fault.position}"
    else s!"bytes in position {fault.position}-{fault.position + fault.length - 1}"
  s!"'utf-8' codec can't decode {place}: {fault.reason.message}"

/-- The message for a file that cannot be read. -/
def ReadFault.message : ReadFault → String
  | .unopened path fault => fault.message path
  | .undecodable fault => fault.message

end RouteTable
