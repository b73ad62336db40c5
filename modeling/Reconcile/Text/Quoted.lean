import Reconcile.Text.Hidden

/-!
# Text quoted in messages

A message quotes a name so that it stays on one line and can be told from what surrounds it: inside
double quotes, with a backslash before a quote or a backslash, short forms for line feed, carriage
return, tab and the zero character, and the code of any other character that does not show.
-/
namespace Reconcile.Text

/-- The text of one character inside quotes. -/
def escape (c : Char) : List Char :=
  if c = '"' then ['\\', '"']
  else if c = '\\' then ['\\', '\\']
  else if c = '\n' then ['\\', 'n']
  else if c = '\r' then ['\\', 'r']
  else if c = '\t' then ['\\', 't']
  else if c = '\x00' then ['\\', '0']
  else if isHidden c then ['\\', 'u', '\x7b'] ++ Nat.toDigits 16 c.toNat ++ ['\x7d']
  else [c]

def quoted (s : String) : String := String.ofList ('"' :: (s.toList.flatMap escape ++ ['"']))

end Reconcile.Text
