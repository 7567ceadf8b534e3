import TracerConfig.Text.Hex
import TracerConfig.Unicode.Property

/-!
# Quoted texts in messages

A value shown in a message stands between double quotes. Quotes, backslashes and whatever has
no visible form of its own, or would attach to the character before it, are escaped, so that a
message shows exactly which characters a value holds.
-/

namespace TracerConfig.Text

/-- The form of a character inside quotes: a short escape, an escaped code point, or the
character itself. -/
def quotedChar (c : Char) : List Char :=
  if c = '\x00' then ['\\', '0']
  else if c = '\t' then ['\\', 't']
  else if c = '\n' then ['\\', 'n']
  else if c = '\r' then ['\\', 'r']
  else if c = '"' then ['\\', '"']
  else if c = '\\' then ['\\', '\\']
  else if Unicode.isGraphemeExtend c || !Unicode.isPrintable c then
    ['\\', 'u', '\x7b'] ++ hexDigits c.toNat ++ ['\x7d']
  else [c]

/-- A text between quotes. -/
def quoted (s : String) : String :=
  String.ofList ('"' :: s.toList.flatMap quotedChar ++ ['"'])

end TracerConfig.Text
