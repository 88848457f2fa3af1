import Scaffold.Text.Digits
import Scaffold.Text.Shapeless

/-!
# Quoted text in diagnostics

A diagnostic shows a text between double quotes.  Quotes, backslashes and the
common controls are escaped by a letter, other characters without a shape by
their number in braces; everything else stands as it is.
-/

namespace Scaffold.Text

/-- One character as a quoted text shows it. -/
def quoteChar (c : Char) : List Char :=
  if c = '\x00' then ['\\', '0']
  else if c = '\t' then ['\\', 't']
  else if c = '\r' then ['\\', 'r']
  else if c = '\n' then ['\\', 'n']
  else if c = '\\' || c = '\x22' then ['\\', c]
  else if isShapeless c then ['\\', 'u', '\x7b'] ++ hex c.toNat ++ ['\x7d']
  else [c]

/-- A text between double quotes, with its shapeless characters escaped. -/
def quoted (text : String) : String :=
  String.ofList (['\x22'] ++ text.toList.flatMap quoteChar ++ ['\x22'])

end Scaffold.Text
