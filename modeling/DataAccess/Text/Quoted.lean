import DataAccess.Text.Case
import DataAccess.Text.EscapeTable
/-!
Text in quotes, as messages show it. What would not show is written as an escape.
-/

namespace DataAccess.Text

def isHidden (c : Char) : Bool :=
  c.toNat < 0x20 || c.toNat = 0x7F || inRanges EscapeTable.hidden c

def quotedChar (c : Char) : List Char :=
  if c = '"' ∨ c = '\\' then ['\\', c]
  else if c = '\n' then ['\\', 'n']
  else if c = '\r' then ['\\', 'r']
  else if c = '\t' then ['\\', 't']
  else if c.toNat = 0 then ['\\', '0']
  else if isHidden c then ['\\', 'u', '\x7b'] ++ Nat.toDigits 16 c.toNat ++ ['\x7d']
  else [c]

def quoted (s : String) : String :=
  .ofList ('"' :: s.toList.flatMap quotedChar ++ ['"'])

end DataAccess.Text
