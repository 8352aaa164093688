import Courier.Text.Hex
import Courier.Text.Shown

/-!
# Courier — quoted text

A text in double quotes, as messages and diagnostic views show it: quotation marks, backslashes and
the common controls are escaped by a letter, every other code point without a visible form of its
own by its number.
-/

namespace Courier.Text

/-- A character inside double quotes. -/
def quoteChar (c : Char) : List Char :=
  if c = '\x00' then ['\\', '0']
  else if c = '\t' then ['\\', 't']
  else if c = '\r' then ['\\', 'r']
  else if c = '\n' then ['\\', 'n']
  else if c = '"' ∨ c = '\\' then ['\\', c]
  else if isShown c then [c]
  else '\\' :: 'u' :: '\x7b' :: Hex.ofNat c.toNat ++ ['\x7d']

/-- A text in double quotes. -/
def quoted (s : String) : String :=
  String.ofList ('"' :: s.toList.flatMap quoteChar ++ ['"'])

end Courier.Text
