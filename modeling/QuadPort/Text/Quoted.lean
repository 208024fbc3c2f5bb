import QuadPort.Text.Visible

/-!
# Quoted text

Text is quoted with double quotes. Quotes and backslashes are escaped, line breaks, tabs
and the zero character have short escapes, and a character that is invisible or attaches
to the one before it is written by its code point.
-/

namespace QuadPort.Text.Quoted

/-- The hexadecimal digits of a code point, without leading zeros. -/
def codePoint (c : Char) : List Char :=
  Nat.toDigits 16 c.toNat

def escape (c : Char) : List Char :=
  if c = '\x00' then ['\\', '0']
  else if c = '\t' then ['\\', 't']
  else if c = '\r' then ['\\', 'r']
  else if c = '\n' then ['\\', 'n']
  else if c = '"' then ['\\', '"']
  else if c = '\\' then ['\\', '\\']
  else if Visible.isAttaching c || !Visible.isVisible c then
    ['\\', 'u', '\x7b'] ++ codePoint c ++ ['\x7d']
  else [c]

def quote (text : String) : String :=
  String.ofList ('"' :: text.toList.flatMap escape ++ ['"'])

end QuadPort.Text.Quoted
