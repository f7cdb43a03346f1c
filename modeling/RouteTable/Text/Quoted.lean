/-
**Quoted text in messages.**

A text is shown between single quotes, or between double quotes when it holds a single quote and
no double one. The quote, the backslash and characters that do not show are escaped. A list of
texts is shown between brackets with a comma and a space between each two.
-/

import RouteTable.Text.Hex
import RouteTable.Text.Pieces
import RouteTable.Text.Printable

namespace RouteTable.Text

/-- The quote a text is shown with. -/
def quoteFor (text : List Char) : Char :=
  if '\'' ∈ text ∧ '"' ∉ text then '"' else '\''

/-- A character as it stands between quotes. -/
def showInQuotes (quote char : Char) : List Char :=
  if char = quote ∨ char = '\\' then ['\\', char]
  else if char = '\n' then ['\\', 'n']
  else if char = '\r' then ['\\', 'r']
  else if char = '\t' then ['\\', 't']
  else if isPrintable char then [char]
  else if char.toNat < 0x100 then '\\' :: 'x' :: Hex.digits 2 char.toNat
  else if char.toNat < 0x10000 then '\\' :: 'u' :: Hex.digits 4 char.toNat
  else '\\' :: 'U' :: Hex.digits 8 char.toNat

/-- A text between quotes. -/
def quoted (text : String) : String :=
  let quote := quoteFor text.toList
  String.ofList (quote :: (text.toList.flatMap (showInQuotes quote) ++ [quote]))

/-- A list of texts between brackets. -/
def quotedList (texts : List String) : String :=
  "[" ++ ", ".intercalate (texts.map quoted) ++ "]"

end RouteTable.Text
