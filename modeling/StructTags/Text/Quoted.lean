import StructTags.Text.Digits
import StructTags.Unicode.Printable

/-!
# Texts shown in messages

A text quoted in a message stands between double quotes, with everything that would not show
written as an escape.
-/

namespace StructTags

namespace Quoted

/-- How a character is shown inside quotes. -/
def showChar (c : Char) : List Char :=
  if c = '"' then ['\\', '"']
  else if c = '\\' then ['\\', '\\']
  else if c = '\n' then ['\\', 'n']
  else if c = '\r' then ['\\', 'r']
  else if c = '\t' then ['\\', 't']
  else if c = '\x00' then ['\\', '0']
  else if Unicode.isGraphemeExtend c || !Unicode.isPrintable c then
    '\\' :: 'u' :: '{' :: (Digits.write 16 c.toNat ++ ['}'])
  else [c]

end Quoted

/-- The text in quotes, with escapes for what does not show. -/
def quoted (s : String) : String :=
  String.ofList ('"' :: (s.toList.flatMap Quoted.showChar ++ ['"']))

end StructTags
