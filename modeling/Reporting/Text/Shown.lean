import Reporting.Text.Hidden
import Reporting.Text.Split

/-!
Texts as messages show them: between double quotes, with escapes for what would not be seen.
-/

namespace Reporting.Text

def shownChar (c : Char) : List Char :=
  if c = '\x00' then ['\\', '0']
  else if c = '\t' then ['\\', 't']
  else if c = '\r' then ['\\', 'r']
  else if c = '\n' then ['\\', 'n']
  else if c = '\x22' || c = '\\' then ['\\', c]
  else if isHidden c then ['\\', 'u', '\x7b'] ++ hexDigits c.toNat ++ ['\x7d']
  else [c]

def shown (s : String) : String :=
  .ofList ('\x22' :: s.toList.flatMap shownChar ++ ['\x22'])

end Reporting.Text
